import HyperTerm.Drivers.AcpRequests
import HyperTerm.Lib.Result

/-!
# Consent to brokered tool calls

A provider announces its calls of the tools that the client brokers, and asks the client for transport-level consent to each.
The client gives it without the user if it has observed the announcement.

* `brokeredMcpTool` : what a call of a brokered tool looks like;
* `normalizeSessionUpdate`, `normalizePermissionRequest` : the updates and the requests;
* `ConsentRun`, `advance` : the state of the client with what has happened so far;
* `Justified` : the call was announced last in the session and the turn as one of an allowed tool, and since then neither
  ended, was changed into another nor was used up;
* `Clear` : an update that concerns a call on the list takes it off, or leaves it a call of its tool;
* `consent_justified` : where every update is clear, only justified requests are allowed without the user.
-/

namespace HyperTerm.Drivers.Consent
open HyperTerm.Protocol HyperTerm.Lib

def hyperTermMcpTools : List String := ["hyper_term.genui.compile", "hyper_term.lsp.query", "hyper_term.diff.review"]

/-- `MAX_PENDING_APPROVALS`. -/
def maxBrokeredCalls : Nat := 128

inductive ToolKind where
  | read
  | edit
  | delete
  | move
  | search
  | execute
  | think
  | fetch
  | switchMode
  | other
  deriving DecidableEq

inductive ToolCallStatus where
  | pending
  | inProgress
  | completed
  | failed
  deriving DecidableEq

def ToolCallStatus.ended : ToolCallStatus → Bool
  | completed | failed => true
  | _ => false

/-- `v1::ToolCall`, as far as it is looked at here. -/
structure ToolCall where
  toolCallId : String
  title : String
  kind : ToolKind
  status : ToolCallStatus
  rawInput : Option Value
  metadata : Option (List (String × Value))

structure ToolCallUpdateFields where
  title : Option String
  kind : Option ToolKind
  status : Option ToolCallStatus
  rawInput : Option Value

structure ToolCallUpdate where
  toolCallId : String
  fields : ToolCallUpdateFields

inductive SessionUpdate where
  | toolCall (call : ToolCall)
  | toolCallUpdate (update : ToolCallUpdate)
  | other (value : Value)

structure RequestPermissionRequest where
  requestId : ExternalRequestId
  sessionId : String
  toolCallId : String
  options : List PermissionOption

/-- The client, and how the schema of the protocol merges an update into a call, or makes a call of it. -/
structure ConsentClient where
  providerId : String
  brokeredMcp : Bool
  update : ToolCall → ToolCallUpdateFields → ToolCall
  update_id : ∀ call fields, (update call fields).toolCallId = call.toolCallId
  create : ToolCallUpdate → Option ToolCall
  create_id : ∀ update call, create update = some call → call.toolCallId = update.toolCallId

/-- What comes of the parts of an update that are only shown: whether it is one of the capabilities, and else its contents. -/
structure Shown where
  capability : Except AcpError Bool
  content : Except AcpError Unit

/-! ## Calls of brokered tools -/

/-- `str::replace` of `.` and `-`. -/
def flattened (tool : String) (separator : Char) : String :=
  String.ofList (tool.toList.map fun c => if c = '.' ∨ c = '-' then separator else c)

def codexShape (call : ToolCall) : Prop :=
  call.kind = .execute ∧ (call.metadata.bind (List.lookup "is_mcp_tool_call")).bind Value.asBool = some true

instance (call : ToolCall) : Decidable (codexShape call) := inferInstanceAs (Decidable (_ ∧ _))

def codexTool (title : String) (input : List (String × Value)) : Option String :=
  if (input.lookup "server").bind Value.asStr ≠ some "hyper_term" ∨ (input.lookup "arguments").any Value.isObject = false then none
  else ((input.lookup "tool").bind Value.asStr).filter fun tool =>
    tool ∈ hyperTermMcpTools ∧ title = "mcp.hyper_term." ++ tool

def brokeredMcpTool (providerId : String) (call : ToolCall) : Option String :=
  match call.rawInput with
  | some (.object input) =>
      if codexShape call then codexTool call.title input
      else if providerId = "claude-acp" then
        hyperTermMcpTools.find? fun tool => call.title = "mcp__hyper_term__" ++ flattened tool '_'
      else if providerId = "copilot-acp" then
        hyperTermMcpTools.find? fun tool => call.title = "hyper_term-" ++ flattened tool '-'
      else none
  | _ => none

theorem mem_of_brokeredMcpTool {providerId tool : String} {call : ToolCall} (h : brokeredMcpTool providerId call = some tool) :
    tool ∈ hyperTermMcpTools := by
  unfold brokeredMcpTool at h
  split at h
  · split_ifs at h
    · unfold codexTool at h
      split_ifs at h
      exact (of_decide_eq_true (Option.filter_eq_some_iff.1 h).2).1
    · exact List.mem_of_find?_eq_some h
    · exact List.mem_of_find?_eq_some h
  · cases h

/-! ## Updates -/

/-- An entry of `brokered_mcp_calls`, with the identifier it stands under. -/
structure BrokeredMcpCall where
  toolCallId : String
  sessionId : String
  toolName : String

structure ConsentState where
  brokeredMcpCalls : Keyed BrokeredMcpCall.toolCallId
  toolCalls : Keyed ToolCall.toolCallId

def ConsentState.start : ConsentState := ⟨.empty, .empty⟩

variable (client : ConsentClient)

def trackBrokeredMcpUpdate (sessionId : String) (update : SessionUpdate) (calls : Keyed BrokeredMcpCall.toolCallId) :
    Except AcpError (Keyed BrokeredMcpCall.toolCallId) :=
  match update with
  | .toolCall call =>
      match brokeredMcpTool client.providerId call with
      | none => .ok calls
      | some toolName => do
          let toolCallId ← boundedText call.toolCallId 4096
          if calls.values.length < maxBrokeredCalls ∨ (calls.get? toolCallId).isSome then
            .ok (calls.put ⟨toolCallId, sessionId, toolName⟩)
          else .ok calls
  | .toolCallUpdate update =>
      if update.fields.status.any ToolCallStatus.ended then .ok (calls.erase update.toolCallId) else .ok calls
  | .other _ => .ok calls

/-- The checks of a call that is shown. -/
def normalizeToolCall (call : ToolCall) (content : Except AcpError Unit) : Except AcpError Unit := do
  let _ ← boundedText call.toolCallId 4096
  let _ ← boundedText call.title (16 * 1024)
  content

/-- What is done to the second table. -/
def recordToolCall (update : SessionUpdate) (content : Except AcpError Unit) (calls : Keyed ToolCall.toolCallId) :
    Keyed ToolCall.toolCallId × Except AcpError Unit :=
  match update with
  | .toolCall call =>
      match boundedText call.toolCallId 4096 with
      | .error error => (calls, .error error)
      | .ok _ =>
          match normalizeToolCall call content with
          | .error error => (calls, .error error)
          | .ok () => (calls.put call, .ok ())
  | .toolCallUpdate update =>
      match boundedText update.toolCallId 4096 with
      | .error error => (calls, .error error)
      | .ok toolCallId =>
          match calls.get? toolCallId with
          | some call =>
              (calls.put (client.update call update.fields), normalizeToolCall (client.update call update.fields) content)
          | none =>
              match client.create update with
              | none => (calls, .error (.invalidMessage ("ACP tool update cannot create " ++ toolCallId)))
              | some call => (calls.put call, normalizeToolCall call content)
  | .other _ => (calls, content)

/-- An update whose session has too long a name is refused before it is tracked. -/
def normalizeSessionUpdate (sessionId : String) (update : SessionUpdate) (shown : Shown) (s : ConsentState) :
    ConsentState × Except AcpError Unit :=
  match boundedText sessionId 4096 with
  | .error error => (s, .error error)
  | .ok threadId =>
      match trackBrokeredMcpUpdate client threadId update s.brokeredMcpCalls with
      | .error error => (s, .error error)
      | .ok brokeredMcpCalls =>
          match shown.capability with
          | .error error => (⟨brokeredMcpCalls, s.toolCalls⟩, .error error)
          | .ok true => (⟨brokeredMcpCalls, s.toolCalls⟩, .ok ())
          | .ok false =>
              (⟨brokeredMcpCalls, (recordToolCall client update shown.content s.toolCalls).1⟩,
                (recordToolCall client update shown.content s.toolCalls).2)

/-! ## Requests -/

/-- Whether the request was allowed without the user. -/
def resolveBrokeredMcpConsent (request : RequestPermissionRequest) (sent : Except ProcessError Unit) (s : ConsentState) :
    ConsentState × Except AcpError Bool :=
  if client.brokeredMcp = false then (s, .ok false)
  else
    match s.brokeredMcpCalls.get? request.toolCallId with
    | none => (s, .ok false)
    | some call =>
        if call.sessionId ≠ request.sessionId ∨ call.toolName ∉ hyperTermMcpTools then (s, .ok false)
        else
          match request.options.find? fun option => option.kind = .allowOnce with
          | none => (s, .ok false)
          | some _ =>
              match sent with
              | .error e => (s, .error (.driver e))
              | .ok () => ({ s with brokeredMcpCalls := s.brokeredMcpCalls.erase request.toolCallId }, .ok true)

/-- A request is answered at once, or proposed to the user. -/
inductive PermissionOutcome where
  | allowed
  | proposed
  deriving DecidableEq

/-- `normalize_permission_request`, with what comes of sending the consent, and of filing the proposal. -/
def normalizePermissionRequest (request : RequestPermissionRequest) (sent : Except ProcessError Unit)
    (filed : Except AcpError Unit) (s : ConsentState) : ConsentState × Except AcpError PermissionOutcome :=
  match resolveBrokeredMcpConsent client request sent s with
  | (s, .error error) => (s, .error error)
  | (s, .ok true) => (s, .ok .allowed)
  | (s, .ok false) => (s, filed.map fun _ => .proposed)

/-! ## Runs -/

inductive ConsentEvent where
  /-- `start_turn` clears the tables. -/
  | turn
  | update (sessionId : String) (update : SessionUpdate) (shown : Shown)
  | permission (request : RequestPermissionRequest) (sent : Except ProcessError Unit) (filed : Except AcpError Unit)

/-- What has happened: a turn was started, an update came in, or a request was allowed without the user. -/
inductive Happened where
  | started
  | updated (sessionId : String) (update : SessionUpdate)
  | allowed (toolCallId : String)

/-- The client with what has happened, the latest first. -/
structure ConsentRun where
  state : ConsentState
  history : List Happened

def ConsentRun.start : ConsentRun := ⟨.start, []⟩

def advance (run : ConsentRun) : ConsentEvent → ConsentRun
  | .turn => ⟨.start, .started :: run.history⟩
  | .update sessionId update shown =>
      ⟨(normalizeSessionUpdate client sessionId update shown run.state).1, .updated sessionId update :: run.history⟩
  | .permission request sent filed =>
      match normalizePermissionRequest client request sent filed run.state with
      | (s, .ok .allowed) => ⟨s, .allowed request.toolCallId :: run.history⟩
      | (s, _) => ⟨s, run.history⟩

/-- The runs all of whose steps meet a condition. -/
inductive Reached (condition : ConsentRun → ConsentEvent → Prop) : ConsentRun → Prop where
  | start : Reached condition .start
  | step {run : ConsentRun} {event : ConsentEvent} (before : Reached condition run) (meets : condition run event) :
      Reached condition (advance client run event)

/-! ## What justifies a consent -/

/-- The call with the identifier, as it was announced last and with the updates to it since then. -/
def currentCall (toolCallId : String) : List Happened → Option ToolCall
  | [] => none
  | .started :: _ => none
  | .allowed _ :: before => currentCall toolCallId before
  | .updated _ (.toolCall call) :: before => if call.toolCallId = toolCallId then some call else currentCall toolCallId before
  | .updated _ (.toolCallUpdate update) :: before =>
      if update.toolCallId = toolCallId then (currentCall toolCallId before).map fun call => client.update call update.fields
      else currentCall toolCallId before
  | .updated _ (.other _) :: before => currentCall toolCallId before

/-- The update leaves the call one of the tool. -/
def KeepsTool (tool : String) (update : ToolCallUpdate) (history : List Happened) : Prop :=
  ∀ call, currentCall client update.toolCallId history = some call →
    brokeredMcpTool client.providerId (client.update call update.fields) = some tool

/-- The call of the tool is not touched: no turn is started, it is not announced again, neither ends nor is changed into
another, and is not allowed. -/
def Keeps (toolCallId tool : String) (before : List Happened) : Happened → Prop
  | .started => False
  | .allowed allowed => allowed ≠ toolCallId
  | .updated _ (.toolCall call) => call.toolCallId ≠ toolCallId
  | .updated _ (.toolCallUpdate update) =>
      update.toolCallId = toolCallId →
        update.fields.status.any ToolCallStatus.ended = false ∧ KeepsTool client tool update before
  | .updated _ (.other _) => True

/-- The call was announced in the session as one of the tool, and nothing has touched it since. -/
def Stands (sessionId toolCallId tool : String) (history : List Happened) : Prop :=
  ∃ since call before, history = since ++ .updated sessionId (.toolCall call) :: before ∧
    call.toolCallId = toolCallId ∧ brokeredMcpTool client.providerId call = some tool ∧
    ∀ later event earlier, since = later ++ event :: earlier →
      Keeps client toolCallId tool (earlier ++ .updated sessionId (.toolCall call) :: before) event

def Justified (sessionId toolCallId : String) (history : List Happened) : Prop :=
  ∃ tool ∈ hyperTermMcpTools, Stands client sessionId toolCallId tool history

variable {client}

theorem stands_announced {sessionId tool : String} {call : ToolCall} (h : brokeredMcpTool client.providerId call = some tool)
    (before : List Happened) :
    Stands client sessionId call.toolCallId tool (.updated sessionId (.toolCall call) :: before) := by
  refine ⟨[], call, before, rfl, rfl, h, ?_⟩
  intro later event earlier hsince
  cases later <;> cases hsince

theorem Stands.cons {sessionId toolCallId tool : String} {history : List Happened} {event : Happened}
    (h : Stands client sessionId toolCallId tool history) (hevent : Keeps client toolCallId tool history event) :
    Stands client sessionId toolCallId tool (event :: history) := by
  obtain ⟨since, call, before, rfl, hid, htool, hsince⟩ := h
  refine ⟨event :: since, call, before, rfl, hid, htool, ?_⟩
  intro later event' earlier heq
  cases later with
  | nil =>
      rw [List.nil_append] at heq
      obtain ⟨rfl, rfl⟩ := List.cons.inj heq
      exact hevent
  | cons first later =>
      obtain ⟨-, hrest⟩ := List.cons.inj heq
      exact hsince later event' earlier hrest

/-! ## Requests that are allowed -/

/-- A request is allowed for an entry of its session, which it uses up, or it changes nothing and is proposed or fails. -/
theorem normalizePermissionRequest_cases (client : ConsentClient) (request : RequestPermissionRequest)
    (sent : Except ProcessError Unit) (filed : Except AcpError Unit) (s : ConsentState) :
    (∃ call, s.brokeredMcpCalls.get? request.toolCallId = some call ∧ call.sessionId = request.sessionId ∧
      normalizePermissionRequest client request sent filed s =
        (⟨s.brokeredMcpCalls.erase request.toolCallId, s.toolCalls⟩, .ok .allowed)) ∨
    normalizePermissionRequest client request sent filed s = (s, filed.map fun _ => .proposed) ∨
    ∃ error, normalizePermissionRequest client request sent filed s = (s, .error error) := by
  unfold normalizePermissionRequest resolveBrokeredMcpConsent
  by_cases hbrokered : client.brokeredMcp = false
  · rw [if_pos hbrokered]
    exact Or.inr (Or.inl rfl)
  rw [if_neg hbrokered]
  cases hget : s.brokeredMcpCalls.get? request.toolCallId with
  | none => exact Or.inr (Or.inl rfl)
  | some call =>
      dsimp only
      by_cases hcall : call.sessionId ≠ request.sessionId ∨ call.toolName ∉ hyperTermMcpTools
      · rw [if_pos hcall]
        exact Or.inr (Or.inl rfl)
      rw [if_neg hcall]
      rw [not_or, not_not] at hcall
      cases request.options.find? fun option => option.kind = .allowOnce with
      | none => exact Or.inr (Or.inl rfl)
      | some option =>
          cases sent with
          | error e => exact Or.inr (Or.inr ⟨_, rfl⟩)
          | ok sent => exact Or.inl ⟨call, rfl, hcall.1, rfl⟩

/-! ## Runs whose updates are clear -/

variable (client)

/-- What the update leaves of the first table. -/
def trackedCalls (sessionId : String) (update : SessionUpdate) (calls : Keyed BrokeredMcpCall.toolCallId) :
    Keyed BrokeredMcpCall.toolCallId :=
  if 4096 < sessionId.utf8ByteSize then calls
  else
    match trackBrokeredMcpUpdate client sessionId update calls with
    | .error _ => calls
    | .ok tracked => tracked

theorem normalizeSessionUpdate_calls (sessionId : String) (update : SessionUpdate) (shown : Shown) (s : ConsentState) :
    (normalizeSessionUpdate client sessionId update shown s).1.brokeredMcpCalls =
      trackedCalls client sessionId update s.brokeredMcpCalls := by
  unfold normalizeSessionUpdate trackedCalls boundedText
  by_cases hsize : 4096 < sessionId.utf8ByteSize
  · rw [if_pos hsize, if_pos hsize]
  · rw [if_neg hsize, if_neg hsize]
    dsimp only
    cases trackBrokeredMcpUpdate client sessionId update s.brokeredMcpCalls with
    | error e => rfl
    | ok tracked =>
        dsimp only
        cases shown.capability with
        | error e => rfl
        | ok capability => cases capability <;> rfl

/-- An announcement of a call on the list is not refused and is of a brokered tool; an update that ends one is not refused
either, and one that does not end it leaves it a call of its tool. -/
def Clear (run : ConsentRun) : ConsentEvent → Prop
  | .turn => True
  | .update sessionId (.toolCall call) _ =>
      (run.state.brokeredMcpCalls.get? call.toolCallId).isSome →
        sessionId.utf8ByteSize ≤ 4096 ∧ (brokeredMcpTool client.providerId call).isSome
  | .update sessionId (.toolCallUpdate update) _ =>
      ∀ call, run.state.brokeredMcpCalls.get? update.toolCallId = some call →
        if update.fields.status.any ToolCallStatus.ended then sessionId.utf8ByteSize ≤ 4096
        else KeepsTool client call.toolName update run.history
  | .update _ (.other _) _ => True
  | .permission _ _ _ => True

/-- Every entry of the first table stands. -/
structure Backed (calls : Keyed BrokeredMcpCall.toolCallId) (history : List Happened) : Prop where
  bounded : ∀ toolCallId call, calls.get? toolCallId = some call → toolCallId.utf8ByteSize ≤ 4096
  stands : ∀ toolCallId call, calls.get? toolCallId = some call →
    Stands client call.sessionId toolCallId call.toolName history

variable {client}

theorem backed_empty (history : List Happened) : Backed client .empty history where
  bounded toolCallId call h := by
    rw [Keyed.get?_empty] at h
    cases h
  stands toolCallId call h := by
    rw [Keyed.get?_empty] at h
    cases h

/-- What leaves the entries that are still there untouched, leaves them backed. -/
theorem Backed.cons {calls calls' : Keyed BrokeredMcpCall.toolCallId} {history : List Happened} {event : Happened}
    (h : Backed client calls history)
    (hsub : ∀ toolCallId call, calls'.get? toolCallId = some call → calls.get? toolCallId = some call)
    (hkeeps : ∀ toolCallId call, calls'.get? toolCallId = some call →
      Keeps client toolCallId call.toolName history event) :
    Backed client calls' (event :: history) where
  bounded toolCallId call hget := h.bounded toolCallId call (hsub toolCallId call hget)
  stands toolCallId call hget := (h.stands toolCallId call (hsub toolCallId call hget)).cons (hkeeps toolCallId call hget)

theorem Backed.announce {calls : Keyed BrokeredMcpCall.toolCallId} {history : List Happened} {sessionId : String}
    {call : ToolCall} (h : Backed client calls history)
    (hclear : (calls.get? call.toolCallId).isSome →
      sessionId.utf8ByteSize ≤ 4096 ∧ (brokeredMcpTool client.providerId call).isSome) :
    Backed client (trackedCalls client sessionId (.toolCall call) calls) (.updated sessionId (.toolCall call) :: history) := by
  -- Where the table is left as it is, the call is not on it.
  have hsame : calls.get? call.toolCallId = none → Backed client calls (.updated sessionId (.toolCall call) :: history) := by
    intro hnone
    refine h.cons (fun _ _ hget => hget) ?_
    intro toolCallId entry hget
    show call.toolCallId ≠ toolCallId
    rintro rfl
    cases hnone.symm.trans hget
  have hunlisted : ¬(calls.get? call.toolCallId).isSome → calls.get? call.toolCallId = none := Option.not_isSome_iff_eq_none.1
  unfold trackedCalls trackBrokeredMcpUpdate
  by_cases hsize : 4096 < sessionId.utf8ByteSize
  · rw [if_pos hsize]
    exact hsame (hunlisted fun hsome => absurd hsize (Nat.not_lt.2 (hclear hsome).1))
  rw [if_neg hsize]
  dsimp only
  cases htool : brokeredMcpTool client.providerId call with
  | none =>
      refine hsame (hunlisted fun hsome => ?_)
      have := (hclear hsome).2
      rw [htool] at this
      cases this
  | some tool =>
      dsimp only
      unfold boundedText
      by_cases hid : 4096 < call.toolCallId.utf8ByteSize
      · rw [if_pos hid]
        refine hsame (Option.eq_none_iff_forall_ne_some.2 fun entry hget => ?_)
        exact absurd hid (Nat.not_lt.2 (h.bounded _ _ hget))
      rw [if_neg hid]
      dsimp only [bind, Except.bind]
      by_cases hroom : calls.values.length < maxBrokeredCalls ∨ (calls.get? call.toolCallId).isSome
      · rw [if_pos hroom]
        dsimp only
        constructor
        · intro toolCallId entry hget
          rw [Keyed.get?_put] at hget
          split_ifs at hget with heq
          · rw [heq]
            exact Nat.not_lt.1 hid
          · exact h.bounded toolCallId entry hget
        · intro toolCallId entry hget
          rw [Keyed.get?_put] at hget
          split_ifs at hget with heq
          · cases hget
            rw [heq]
            exact stands_announced htool history
          · exact (h.stands toolCallId entry hget).cons (Ne.symm heq)
      · rw [if_neg hroom]
        exact hsame (hunlisted fun hsome => hroom (Or.inr hsome))

theorem Backed.change {calls : Keyed BrokeredMcpCall.toolCallId} {history : List Happened} {sessionId : String}
    {update : ToolCallUpdate} (h : Backed client calls history)
    (hclear : ∀ call, calls.get? update.toolCallId = some call →
      if update.fields.status.any ToolCallStatus.ended then sessionId.utf8ByteSize ≤ 4096
      else KeepsTool client call.toolName update history) :
    Backed client (trackedCalls client sessionId (.toolCallUpdate update) calls)
      (.updated sessionId (.toolCallUpdate update) :: history) := by
  unfold trackedCalls trackBrokeredMcpUpdate
  dsimp only
  cases hended : update.fields.status.any ToolCallStatus.ended with
  | false =>
      rw [hended] at hclear
      rw [if_neg Bool.false_ne_true]
      dsimp only
      rw [ite_self]
      refine h.cons (fun _ _ hget => hget) ?_
      intro toolCallId call hget
      show update.toolCallId = toolCallId → _
      rintro rfl
      exact ⟨hended, hclear call hget⟩
  | true =>
      rw [hended] at hclear
      rw [if_pos rfl]
      by_cases hsize : 4096 < sessionId.utf8ByteSize
      · rw [if_pos hsize]
        refine h.cons (fun _ _ hget => hget) ?_
        intro toolCallId call hget
        show update.toolCallId = toolCallId → _
        rintro rfl
        exact absurd hsize (Nat.not_lt.2 (hclear call hget))
      · rw [if_neg hsize]
        dsimp only
        refine h.cons (fun _ _ hget => (Keyed.get?_erase_eq_some.1 hget).1) ?_
        intro toolCallId call hget
        show update.toolCallId = toolCallId → _
        intro heq
        exact absurd heq.symm (Keyed.get?_erase_eq_some.1 hget).2

theorem backed_advance {run : ConsentRun} {event : ConsentEvent}
    (h : Backed client run.state.brokeredMcpCalls run.history) (hclear : Clear client run event) :
    Backed client (advance client run event).state.brokeredMcpCalls (advance client run event).history := by
  cases event with
  | turn => exact backed_empty _
  | update sessionId update shown =>
      unfold advance
      dsimp only
      rw [normalizeSessionUpdate_calls]
      cases update with
      | toolCall call => exact h.announce hclear
      | toolCallUpdate update => exact h.change hclear
      | other value =>
          have hsame : trackedCalls client sessionId (.other value) run.state.brokeredMcpCalls = run.state.brokeredMcpCalls :=
            ite_self _
          rw [hsame]
          exact h.cons (fun _ _ hget => hget) fun _ _ _ => trivial
  | permission request sent filed =>
      unfold advance
      dsimp only
      rcases normalizePermissionRequest_cases client request sent filed run.state with
        ⟨call, hget, hsession, heq⟩ | heq | ⟨error, heq⟩
      · rw [heq]
        refine h.cons (fun _ _ hget => (Keyed.get?_erase_eq_some.1 hget).1) ?_
        intro toolCallId call hget
        exact Ne.symm (Keyed.get?_erase_eq_some.1 hget).2
      · rw [heq]
        cases filed <;> exact h
      · rw [heq]
        exact h

theorem backed_of_reached {run : ConsentRun} (h : Reached client (Clear client) run) :
    Backed client run.state.brokeredMcpCalls run.history := by
  induction h with
  | start => exact backed_empty _
  | step before meets ih => exact backed_advance ih meets

/-- **Only justified requests are allowed without the user.** In a run all of whose updates are clear, a request is allowed
only if the call it names is justified, and it uses the announcement up; any other is proposed, or fails. -/
theorem consent_justified {run : ConsentRun} (h : Reached client (Clear client) run) (request : RequestPermissionRequest)
    (sent : Except ProcessError Unit) (filed : Except AcpError Unit) :
    ((normalizePermissionRequest client request sent filed run.state).2 = .ok .allowed ∧
      Justified client request.sessionId request.toolCallId run.history ∧
      (advance client run (.permission request sent filed)).history = .allowed request.toolCallId :: run.history) ∨
    (normalizePermissionRequest client request sent filed run.state).2 = filed.map (fun _ => .proposed) ∨
    ∃ error, (normalizePermissionRequest client request sent filed run.state).2 = .error error := by
  rcases normalizePermissionRequest_cases client request sent filed run.state with
    ⟨call, hget, hsession, heq⟩ | heq | ⟨error, heq⟩
  · have hstands := (backed_of_reached h).stands _ _ hget
    rw [hsession] at hstands
    obtain ⟨since, announced, before, hhistory, hid, htool, hsince⟩ := hstands
    refine Or.inl ⟨?_, ⟨call.toolName, mem_of_brokeredMcpTool htool, since, announced, before, hhistory, hid, htool, hsince⟩, ?_⟩
    · rw [heq]
    · unfold advance
      dsimp only
      rw [heq]
  · rw [heq]
    exact Or.inr (Or.inl rfl)
  · rw [heq]
    exact Or.inr (Or.inr ⟨error, rfl⟩)

/-! ## Examples -/

/-- A client of `claude-acp`. -/
def claudeClient : ConsentClient where
  providerId := "claude-acp"
  brokeredMcp := true
  update call fields := ⟨call.toolCallId, fields.title.getD call.title, fields.kind.getD call.kind,
    fields.status.getD call.status, fields.rawInput.or call.rawInput, call.metadata⟩
  update_id _ _ := rfl
  create _ := none
  create_id _ _ h := by cases h

/-- A call of the diff review, as this provider announces it. -/
def reviewCall : ToolCall := ⟨"call-1", "mcp__hyper_term__hyper_term_diff_review", .other, .pending, some (.object []), none⟩

/-- A command, under the same identifier. -/
def commandCall : ToolCall := ⟨"call-1", "rm -rf target", .execute, .pending, some (.object []), none⟩

def reviewRequest : RequestPermissionRequest := ⟨.string "request-1", "session-1", "call-1", [⟨"allow", .allowOnce⟩]⟩

def announcement (call : ToolCall) : ConsentEvent := .update "session-1" (.toolCall call) ⟨.ok false, .ok ()⟩

def wasAllowed : Except AcpError PermissionOutcome → Bool
  | .ok .allowed => true
  | _ => false

def reviewRun : ConsentRun := advance claudeClient (advance claudeClient .start .turn) (announcement reviewCall)

theorem consent_justified_review :
    (Reached claudeClient (Clear claudeClient) reviewRun ∧
      wasAllowed (normalizePermissionRequest claudeClient reviewRequest (.ok ()) (.ok ()) reviewRun.state).2 = true) ∧
    Justified claudeClient "session-1" "call-1" reviewRun.history := by
  have hreached : Reached claudeClient (Clear claudeClient) reviewRun := by
    refine .step (.step .start trivial) ?_
    show Option.isSome _ = true → _
    intro hsome
    cases hsome
  have hallowed :
      wasAllowed (normalizePermissionRequest claudeClient reviewRequest (.ok ()) (.ok ()) reviewRun.state).2 = true := by
    decide
  refine ⟨⟨hreached, hallowed⟩, ?_⟩
  rcases consent_justified hreached reviewRequest (.ok ()) (.ok ()) with ⟨-, h, -⟩ | h | ⟨error, h⟩
  · exact h
  · rw [h] at hallowed
    cases hallowed
  · rw [h] at hallowed
    cases hallowed

/-- A call that is announced again as a command stays on the list, and the request for it is allowed. -/
theorem command_allowed_for_review :
    ∃ run, Reached claudeClient (fun _ _ => True) run ∧
      wasAllowed (normalizePermissionRequest claudeClient reviewRequest (.ok ()) (.ok ()) run.state).2 = true ∧
      ¬Justified claudeClient reviewRequest.sessionId reviewRequest.toolCallId run.history := by
  refine ⟨advance claudeClient reviewRun (announcement commandCall), ?_, by decide, ?_⟩
  · exact .step (.step (.step .start trivial) trivial) trivial
  · rintro ⟨tool, -, since, call, before, hhistory, -, htool, hsince⟩
    have hcommand : brokeredMcpTool claudeClient.providerId commandCall = none := by decide
    change [_, _, _] = _ at hhistory
    cases since with
    | nil =>
        obtain ⟨hcall, -⟩ := List.cons.inj hhistory
        cases hcall
        cases hcommand.symm.trans htool
    | cons event since =>
        obtain ⟨rfl, -⟩ := List.cons.inj hhistory
        have hkeeps : commandCall.toolCallId ≠ reviewRequest.toolCallId := hsince [] _ since rfl
        exact hkeeps rfl

end HyperTerm.Drivers.Consent
