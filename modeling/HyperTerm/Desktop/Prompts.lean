import HyperTerm.Desktop.Workspace

/-!
# Prompts

What the desktop client does with the prompt of an Agent session: from the composer to Rust, and back where the turn
fails.

* `AgentModel` : the client with the turn of its active session;
* `requestAgentTurn`, `restorePendingAgentPrompt`, `reconcilePendingAgentPrompt` : a prompt leaves the composer, comes
  back, or is done with;
* `PromptWorld`, `PromptEvent` : the prompts on the way, and what may happen;
* `PromptSafe` : a prompt that Rust has not accepted is where its session can find it;
* `prompts_safe` : so it is in every run within the condition.
-/

namespace HyperTerm.Desktop
open HyperTerm.Lib

/-! ## The client -/

inductive AgentTurnStatus where
  | idle
  | ready
  | running
  | cancelling
  | completed
  | waitingApproval
  | failed
  deriving DecidableEq, Repr

structure AgentModel extends Model where
  /-- Of the active session. -/
  agentTurnStatus : AgentTurnStatus := .idle
  agentPermissionInFlightSessionId : UInt8 := 0
  agentRejectionInFlightSessionId : UInt8 := 0
  agentRetryAfterRestartSessionId : UInt8 := 0

namespace Model

def activeConnection (m : Model) : AgentConnection := (m.activeSession.map Session.agentConnection).getD .unavailable

def activeMode (m : Model) : SessionMode := (m.activeSession.map Session.mode).getD .terminal

def agentComposerInputDisabled (m : Model) : Bool := m.activeConnection ≠ .ready || m.agentBaseUrl = ""

def pendingAgentPrompt (m : Model) (sessionId : UInt8) : Option String :=
  (m.pendingAgentPromptIndex sessionId).bind fun index => m.agentPendingPrompts[index]?

/-- The prompt is put back into an empty composer, and is not pending any more. -/
def restorePendingAgentPrompt (m : Model) (sessionId : UInt8) : Model :=
  match m.pendingAgentPrompt sessionId with
  | none => m
  | some pending =>
      let restored : Model :=
        if sessionId ≠ m.activeSessionId ∨ pending = "" then m
        else if m.agentComposerBuffer = "" then { m with agentComposerBuffer := pending }
        else m
      restored.setPendingAgentPrompt sessionId ""

end Model

def isPromptSpace (c : Char) : Bool := c = ' ' || c = '\t' || c = '\r' || c = '\n'

/-- `std.mem.trim` of white space. -/
def trimPrompt (text : String) : String :=
  String.ofList ((text.toList.dropWhile isPromptSpace).rdropWhile isPromptSpace)

namespace AgentModel

def agentSubmitDisabled (m : AgentModel) : Bool :=
  m.agentComposerInputDisabled || m.agentTurnStatus = .running || m.agentTurnStatus = .cancelling ||
    m.agentTurnStatus = .waitingApproval

/-- A prompt goes to Rust: the session, and the text. The composer holds no more than a pending prompt can. -/
def requestAgentTurn (m : AgentModel) : AgentModel × Option (UInt8 × String) :=
  if m.agentSubmitDisabled then (m, none)
  else
    let prompt := trimPrompt m.agentComposerBuffer
    if prompt = "" ∨ m.pendingAgentPrompt m.activeSessionId = none then (m, none)
    else
      let sent := (m.setPendingAgentPrompt m.activeSessionId prompt).agentComposerChanged ""
      ({ m with toModel := sent, agentTurnStatus := .running }, some (m.activeSessionId, prompt))

def reconcilePendingAgentPrompt (m : AgentModel) (sessionId : UInt8) : AgentModel :=
  match m.agentTurnStatus with
  | .failed => { m with toModel := m.restorePendingAgentPrompt sessionId }
  | .completed => { m with toModel := m.setPendingAgentPrompt sessionId "" }
  | _ => m

def resetAgentProjection (m : AgentModel) : AgentModel :=
  { m with
    agentTurnStatus := .idle
    agentPermissionInFlightSessionId := 0
    agentRejectionInFlightSessionId := 0 }

def applyAgentTurnResponse (m : AgentModel) (sessionId : UInt8) (accepted : Bool) : AgentModel :=
  if sessionId ≠ m.activeSessionId ∨ accepted then m
  else { m with toModel := m.restorePendingAgentPrompt sessionId, agentTurnStatus := .failed }

/-! ## Sessions and their turns -/

/-- `update` of `select_session`. -/
def selectSession (m : AgentModel) (sessionId : UInt8) : AgentModel :=
  let selected : AgentModel :=
    { m with toModel := (m.chooseSession sessionId).1, agentRetryAfterRestartSessionId := 0 }
  if selected.activeSessionId = m.activeSessionId then selected else selected.resetAgentProjection

def closeSession (m : AgentModel) (sessionId : UInt8) : AgentModel :=
  match m.findSession sessionId with
  | none => { m with toModel := (m.toModel.closeSession sessionId).1 }
  | some session =>
      let forget (other : UInt8) : UInt8 := if session.mode = .agent ∧ other = sessionId then 0 else other
      let closed : AgentModel := { m with
        toModel := (m.toModel.closeSession sessionId).1
        agentPermissionInFlightSessionId := forget m.agentPermissionInFlightSessionId
        agentRejectionInFlightSessionId := forget m.agentRejectionInFlightSessionId
        agentRetryAfterRestartSessionId := forget m.agentRetryAfterRestartSessionId }
      if m.activeSessionId = sessionId ∧ m.sessionSlots.length ≠ 1 then closed.resetAgentProjection else closed

def applyAgentStartResponse (m : AgentModel) (sessionId : UInt8) (ready : Bool) : AgentModel :=
  let connected : AgentModel := { m with toModel := m.setAgentConnection sessionId (if ready then .ready else .failed) }
  if sessionId ≠ connected.activeSessionId then connected
  else { connected.resetAgentProjection with agentTurnStatus := if ready then .ready else .failed }

/-- A turn that was to be tried again after a restart is. -/
def applyAgentSessionStarted (m : AgentModel) (sessionId : UInt8) (ready : Bool) : AgentModel × Option (UInt8 × String) :=
  let started := m.applyAgentStartResponse sessionId ready
  if m.agentRetryAfterRestartSessionId = 0 ∨ sessionId ≠ m.agentRetryAfterRestartSessionId then (started, none)
  else
    let retried : AgentModel := { started with agentRetryAfterRestartSessionId := 0 }
    match retried.findSession sessionId with
    | none => (retried, none)
    | some session =>
        if sessionId = retried.activeSessionId ∧ session.agentConnection = .ready then retried.requestAgentTurn
        else (retried, none)

/-- Whether the failure needs the provider to restart is in the failure's record. -/
def retryAgentTurn (m : AgentModel) (requiresRestart : Bool) : AgentModel × Option (UInt8 × String) :=
  if m.activeMode ≠ .agent ∨ m.activeConnection ≠ .ready ∨ m.agentTurnStatus ≠ .failed ∨
      m.agentRetryAfterRestartSessionId ≠ 0 ∨ m.agentSubmitDisabled = true ∨ trimPrompt m.agentComposerBuffer = "" then
    (m, none)
  else if requiresRestart = false then m.requestAgentTurn
  else
    ({ m with
        toModel := m.setAgentConnection m.activeSessionId .connecting
        agentRetryAfterRestartSessionId := m.activeSessionId }, none)

/-! ## What Rust tells of the turn -/

/-- What becomes of a response with a snapshot: there is none, it is not taken, or it is projected. -/
inductive SnapshotResult where
  | failed
  | ignored
  | projected (status : AgentTurnStatus)

def applyAgentSnapshotResponse (m : AgentModel) (sessionId : UInt8) (result : SnapshotResult) : AgentModel :=
  if sessionId ≠ m.activeSessionId then m
  else
    match result with
    | .failed => { m with agentTurnStatus := .failed }
    | .ignored => m
    | .projected status => AgentModel.reconcilePendingAgentPrompt { m with agentTurnStatus := status } sessionId

/-- A line of type `state`. -/
def applyAgentStateFrame (m : AgentModel) (sessionId : UInt8) (status : Option AgentTurnStatus) : AgentModel :=
  if sessionId ≠ m.activeSessionId then m
  else
    AgentModel.reconcilePendingAgentPrompt { m with agentTurnStatus := status.getD m.agentTurnStatus } sessionId

/-- The status of a line of another type. -/
def applyAgentFrameStatus (m : AgentModel) (sessionId : UInt8) (status : Option AgentTurnStatus) : AgentModel :=
  if sessionId ≠ m.activeSessionId then m else { m with agentTurnStatus := status.getD m.agentTurnStatus }

def requestAgentPermission (m : AgentModel) (rejects : Bool) : AgentModel :=
  if m.agentPermissionInFlightSessionId ≠ 0 ∨ m.activeMode ≠ .agent ∨ m.activeConnection ≠ .ready then m
  else
    { m with
      agentPermissionInFlightSessionId := m.activeSessionId
      agentRejectionInFlightSessionId := if rejects then m.activeSessionId else 0 }

def applyAgentPermissionResponse (m : AgentModel) (sessionId : UInt8) (accepted : Bool) : AgentModel :=
  let answered : AgentModel :=
    if m.agentPermissionInFlightSessionId = sessionId then { m with agentPermissionInFlightSessionId := 0 } else m
  if sessionId ≠ m.activeSessionId then answered
  else if accepted = false then
    { answered with agentRejectionInFlightSessionId := 0, agentTurnStatus := .waitingApproval }
  else
    { answered with
      toModel := if m.agentRejectionInFlightSessionId = sessionId then m.restorePendingAgentPrompt sessionId else m.toModel
      agentRejectionInFlightSessionId := 0
      agentTurnStatus := .running }

def requestAgentCancel (m : AgentModel) : AgentModel :=
  if (m.agentTurnStatus = .running ∨ m.agentTurnStatus = .waitingApproval) ∧ m.activeConnection = .ready then
    { m with agentTurnStatus := .cancelling }
  else m

/-- `applyAgentCancelResponse`, and `applyAgentGoalResponse`. -/
def applyAgentRefusal (m : AgentModel) (sessionId : UInt8) (accepted : Bool) : AgentModel :=
  if sessionId ≠ m.activeSessionId ∨ accepted then m else { m with agentTurnStatus := .failed }

end AgentModel

/-! ## The world -/

/-- A prompt that a session has sent. -/
structure Prompt where
  session : UInt8
  text : String
  /-- Rust has accepted or refused it. -/
  verdict : Option Bool
  /-- The client has the response, or an error in its place. -/
  answered : Bool
  /-- The composer of the session has had it back. -/
  returned : Bool
  deriving DecidableEq

structure PromptWorld where
  model : AgentModel
  /-- The prompts of the sessions that are open. -/
  prompts : List Prompt
  /-- What each session's draft and pending prompt are. -/
  kept : UInt8 → Kept

inductive PromptEvent where
  | chooseTerminal
  | chooseAgent (provider : AgentProvider)
  | openLoginTerminal (provider : AgentProvider)
  | selectSession (sessionId : UInt8)
  | closeSession (sessionId : UInt8)
  | agentComposerChanged (text : String)
  | agentConnectionChanged (sessionId : UInt8) (connection : AgentConnection)
  | agentProvidersRefreshed (available authenticated sessionAuth : List AgentProvider)
  | sendAgentPrompt
  | retryAgentTurn (requiresRestart : Bool)
  | agentSessionStarted (sessionId : UInt8) (ready : Bool)
  /-- Rust comes to a prompt. -/
  | verdict (index : Nat) (accepted : Bool)
  /-- The client has the response to a prompt, or an error in its place. -/
  | agentTurnStarted (index : Nat) (arrives : Bool)
  /-- The same, where the session that sent the prompt is closed. -/
  | lateAgentTurnStarted (sessionId : UInt8) (accepted : Bool)
  | agentSnapshotReceived (sessionId : UInt8) (result : AgentModel.SnapshotResult)
  | agentStateFrame (sessionId : UInt8) (status : Option AgentTurnStatus)
  | agentFrameStatus (sessionId : UInt8) (status : Option AgentTurnStatus)
  | requestAgentPermission (rejects : Bool)
  | agentPermissionDecided (sessionId : UInt8) (accepted : Bool)
  | cancelAgentTurn
  | agentTurnCancelled (sessionId : UInt8) (accepted : Bool)

/-- What happens to the draft and the pending prompt of one session. -/
inductive Moved where
  | nothing
  | opened (sessionId : UInt8)
  | typed (sessionId : UInt8) (text : String)
  | sent (sessionId : UInt8) (prompt : String)
  | restored (sessionId : UInt8)
  | cleared (sessionId : UInt8)

/-- The draft and the pending prompt of a session move within it: no other session's change. -/
def Moved.apply (kept : UInt8 → Kept) : Moved → UInt8 → Kept
  | .nothing => kept
  | .opened sessionId => Function.update kept sessionId Kept.blank
  | .typed sessionId text => Function.update kept sessionId { kept sessionId with draft := text }
  | .sent sessionId prompt => Function.update kept sessionId ⟨"", prompt⟩
  | .restored sessionId => Function.update kept sessionId
      ⟨if (kept sessionId).draft = "" then (kept sessionId).pending else (kept sessionId).draft, ""⟩
  | .cleared sessionId => Function.update kept sessionId { kept sessionId with pending := "" }

namespace PromptWorld

/-- The response to a prompt is an acceptance. -/
def accepts (prompt : Prompt) (arrives : Bool) : Bool := arrives && prompt.verdict = some true

/-- The client after an event, and what it has sent. -/
def react (w : PromptWorld) : PromptEvent → AgentModel × Option (UInt8 × String)
  | .chooseTerminal => ({ w.model with toModel := w.model.chooseTerminal.1 }, none)
  | .chooseAgent provider => ({ w.model with toModel := (w.model.createAgentSession provider).1 }, none)
  | .openLoginTerminal provider => ({ w.model with toModel := (w.model.openProviderLoginTerminal provider).1 }, none)
  | .selectSession sessionId => (w.model.selectSession sessionId, none)
  | .closeSession sessionId => (w.model.closeSession sessionId, none)
  | .agentComposerChanged text => ({ w.model with toModel := w.model.agentComposerChanged text }, none)
  | .agentConnectionChanged sessionId connection =>
      ({ w.model with toModel := w.model.setAgentConnection sessionId connection }, none)
  | .agentProvidersRefreshed available authenticated sessionAuth =>
      ({ w.model with toModel := w.model.applyAgentProviderRefresh available authenticated sessionAuth }, none)
  | .sendAgentPrompt => w.model.requestAgentTurn
  | .retryAgentTurn requiresRestart => w.model.retryAgentTurn requiresRestart
  | .agentSessionStarted sessionId ready => w.model.applyAgentSessionStarted sessionId ready
  | .verdict _ _ => (w.model, none)
  | .agentTurnStarted index arrives =>
      match w.prompts[index]? with
      | none => (w.model, none)
      | some prompt =>
          if prompt.answered then (w.model, none)
          else (w.model.applyAgentTurnResponse prompt.session (accepts prompt arrives), none)
  | .lateAgentTurnStarted sessionId accepted => (w.model.applyAgentTurnResponse sessionId accepted, none)
  | .agentSnapshotReceived sessionId result => (w.model.applyAgentSnapshotResponse sessionId result, none)
  | .agentStateFrame sessionId status => (w.model.applyAgentStateFrame sessionId status, none)
  | .agentFrameStatus sessionId status => (w.model.applyAgentFrameStatus sessionId status, none)
  | .requestAgentPermission rejects => (w.model.requestAgentPermission rejects, none)
  | .agentPermissionDecided sessionId accepted => (w.model.applyAgentPermissionResponse sessionId accepted, none)
  | .cancelAgentTurn => (w.model.requestAgentCancel, none)
  | .agentTurnCancelled sessionId accepted => (w.model.applyAgentRefusal sessionId accepted, none)

/-- The active session sends what is in its composer. -/
def sends (m : AgentModel) : Moved :=
  if m.agentSubmitDisabled = true ∨ trimPrompt m.agentComposerBuffer = "" then .nothing
  else .sent m.activeSessionId (trimPrompt m.agentComposerBuffer)

/-- A status of the turn of a session has come. -/
def reconciles (m : AgentModel) (sessionId : UInt8) (status : AgentTurnStatus) : Moved :=
  if sessionId ≠ m.activeSessionId then .nothing
  else
    match status with
    | .failed => .restored sessionId
    | .completed => .cleared sessionId
    | _ => .nothing

def refuses (m : AgentModel) (sessionId : UInt8) (accepted : Bool) : Moved :=
  if sessionId ≠ m.activeSessionId ∨ accepted = true then .nothing else .restored sessionId

/-- What an event does to drafts and pending prompts. -/
def moved (w : PromptWorld) : PromptEvent → Moved
  | .chooseTerminal | .chooseAgent _ | .openLoginTerminal _ => .opened w.model.nextSessionId
  | .agentComposerChanged text => .typed w.model.activeSessionId text
  | .sendAgentPrompt => sends w.model
  | .retryAgentTurn requiresRestart =>
      if w.model.activeMode ≠ .agent ∨ w.model.agentTurnStatus ≠ .failed ∨
          w.model.agentRetryAfterRestartSessionId ≠ 0 ∨ requiresRestart = true then .nothing
      else sends w.model
  | .agentSessionStarted sessionId ready =>
      if w.model.agentRetryAfterRestartSessionId = 0 ∨ sessionId ≠ w.model.agentRetryAfterRestartSessionId ∨
          sessionId ≠ w.model.activeSessionId then .nothing
      else sends (w.model.applyAgentStartResponse sessionId ready)
  | .agentTurnStarted index arrives =>
      match w.prompts[index]? with
      | none => .nothing
      | some prompt => if prompt.answered then .nothing else refuses w.model prompt.session (accepts prompt arrives)
  | .lateAgentTurnStarted sessionId accepted => refuses w.model sessionId accepted
  | .agentSnapshotReceived sessionId (.projected status) => reconciles w.model sessionId status
  | .agentStateFrame sessionId status => reconciles w.model sessionId (status.getD w.model.agentTurnStatus)
  | .agentPermissionDecided sessionId accepted =>
      if accepted = true ∧ w.model.agentRejectionInFlightSessionId = sessionId then refuses w.model sessionId false
      else .nothing
  | _ => .nothing

/-- The prompts, after what Rust and the client have learnt of them. -/
def learnt (w : PromptWorld) : PromptEvent → List Prompt
  | .verdict index accepted => w.prompts.modify index fun prompt =>
      { prompt with verdict := prompt.verdict.or (some accepted) }
  | .agentTurnStarted index _ => w.prompts.modify index fun prompt => { prompt with answered := true }
  | _ => w.prompts

/-- A prompt that is not pending any more has been returned if it is what the composer holds. -/
def settle (kept : UInt8 → Kept) (prompt : Prompt) : Prompt :=
  if (kept prompt.session).pending ≠ prompt.text ∧ (kept prompt.session).draft = prompt.text then
    { prompt with returned := true }
  else prompt

def newPrompt (sent : UInt8 × String) : Prompt := ⟨sent.1, sent.2, none, false, false⟩

def step (w : PromptWorld) (event : PromptEvent) : PromptWorld :=
  let reacted := w.react event
  let kept := (w.moved event).apply w.kept
  { model := reacted.1
    prompts := ((w.learnt event ++ reacted.2.toList.map newPrompt).filter fun prompt =>
      prompt.session ∈ reacted.1.sessionIds).map (settle kept)
    kept }

/-- The prompts of a session that Rust has not accepted, and that its composer has not had back. -/
def outstanding (w : PromptWorld) (sessionId : UInt8) : List Prompt :=
  w.prompts.filter fun prompt => prompt.session = sessionId ∧ prompt.verdict ≠ some true ∧ prompt.returned = false

end PromptWorld

/-! ## What is safe -/

/-- Each session's draft and pending prompt are its own, and a prompt that Rust has not accepted is its session's pending
prompt, unless the composer of the session has had it back. -/
structure PromptSafe (w : PromptWorld) : Prop where
  keeps : Keeps w.kept w.model.toModel
  isOpen : ∀ prompt ∈ w.prompts, prompt.session ∈ w.model.sessionIds
  held : ∀ prompt ∈ w.prompts, prompt.verdict ≠ some true → prompt.returned = false →
    (w.kept prompt.session).pending = prompt.text

/-- A prompt is sent, or the pending prompt dropped for a completed turn, only where the session's earlier prompts are
accepted or back; and a failure comes while the session's draft is empty, or nothing is outstanding. -/
def MovesInOrder (w : PromptWorld) : Moved → Prop
  | .sent sessionId _ => w.outstanding sessionId = []
  | .cleared sessionId => w.outstanding sessionId = []
  | .restored sessionId => w.outstanding sessionId = [] ∨ (w.kept sessionId).draft = ""
  | .nothing | .opened _ | .typed _ _ => True

/-- A session opens under an id that is not open. -/
def OpensInOrder (w : PromptWorld) : PromptEvent → Prop
  | .chooseTerminal => NextFree w.model.toModel
  | .chooseAgent provider =>
      ¬(w.model.availableAgentProviders ≠ [] ∧ w.model.agentProviderAvailable provider = false) → NextFree w.model.toModel
  | .openLoginTerminal provider => provider.loginCommand ≠ none → NextFree w.model.toModel
  | _ => True

/-- The condition. -/
def PromptInOrder (w : PromptWorld) (event : PromptEvent) : Prop :=
  MovesInOrder w (w.moved event) ∧ OpensInOrder w event

def AllPromptsInOrder : PromptWorld → List PromptEvent → Prop
  | _, [] => True
  | w, event :: events => PromptInOrder w event ∧ AllPromptsInOrder (w.step event) events

/-- The client has just started, from what Rust has stored of the workspace. -/
def PromptWorld.start (launch : Launch) (store : Store) : PromptWorld where
  model := { toModel := boot launch store }
  prompts := []
  kept := fun _ => Kept.blank

def PromptWorld.run (launch : Launch) (store : Store) (events : List PromptEvent) : PromptWorld :=
  events.foldl PromptWorld.step (PromptWorld.start launch store)

/-! ## What each event does -/

/-- A well-formed client with these drafts and pending prompts. -/
structure Holding (kept : UInt8 → Kept) (m : Model) : Prop where
  wellFormed : WellFormed m
  keeps : Keeps kept m

variable {kept : UInt8 → Kept} {m m' : Model}

theorem Retabbed.holding {out : Model × Model.Sent} (h : Retabbed kept m out) : Holding kept out.1 := by
  cases h with
  | quiet m₁ hwf hkeeps _ _ => exact ⟨hwf, hkeeps⟩
  | marked m₁ hwf hkeeps _ =>
      have hmarked := persisted_mark hwf hkeeps
      exact ⟨hmarked.wellFormed, hmarked.keeps⟩

theorem Holding.sameContents (h : Holding kept m) (hsame : SameContents m m') : Holding kept m' :=
  ⟨hsame.wellFormed h.wellFormed, hsame.keeps h.keeps⟩

theorem Holding.index (h : Holding kept m) {sessionId : UInt8} (hopen : sessionId ∈ m.sessionIds) :
    ∃ i, m.pendingAgentPromptIndex sessionId = some i ∧ m.sessionIds[i]? = some sessionId := by
  obtain ⟨i, hi⟩ := List.getElem?_of_mem hopen
  exact ⟨i, h.wellFormed.index.mpr hi, hi⟩

/-- The composer holds the draft of the active session. -/
theorem Holding.composer (h : Holding kept m) : m.agentComposerBuffer = (kept m.activeSessionId).draft := by
  obtain ⟨i, -, hi⟩ := h.index h.wellFormed.active
  have hdraft := (h.keeps i m.activeSessionId hi).1
  change (m.agentComposerDrafts.set m.activeSessionIndex m.agentComposerBuffer)[i]? = _ at hdraft
  rw [List.getElem?_set, if_pos (h.wellFormed.activeSessionIndex.mpr hi)] at hdraft
  split at hdraft
  · exact Option.some_inj.mp hdraft
  · cases hdraft

theorem Holding.pending (h : Holding kept m) {sessionId : UInt8} (hopen : sessionId ∈ m.sessionIds) :
    m.pendingAgentPrompt sessionId = some (kept sessionId).pending := by
  obtain ⟨i, hindex, hi⟩ := h.index hopen
  unfold Model.pendingAgentPrompt
  rw [hindex]
  exact (h.keeps i sessionId hi).2

theorem Holding.typed (h : Holding kept m) (text : String) :
    Holding (Function.update kept m.activeSessionId { kept m.activeSessionId with draft := text })
      (m.agentComposerChanged text) :=
  ⟨h.wellFormed.composerChanged text, h.keeps.composerChanged h.wellFormed text⟩

theorem Holding.setPending (h : Holding kept m) (sessionId : UInt8) (text : String) :
    Holding (Function.update kept sessionId { kept sessionId with pending := text })
      (m.setPendingAgentPrompt sessionId text) :=
  ⟨h.wellFormed.setPending sessionId text, h.keeps.setPending h.wellFormed sessionId text⟩

@[simp] theorem setPendingAgentPrompt_activeSessionId (m : Model) (sessionId : UInt8) (text : String) :
    (m.setPendingAgentPrompt sessionId text).activeSessionId = m.activeSessionId := by
  unfold Model.setPendingAgentPrompt
  split <;> rfl

theorem Holding.restored (h : Holding kept m) :
    Holding (Moved.apply kept (.restored m.activeSessionId)) (m.restorePendingAgentPrompt m.activeSessionId) := by
  have hpending := h.pending h.wellFormed.active
  have hcomposer := h.composer
  unfold Model.restorePendingAgentPrompt Moved.apply
  rw [hpending]
  dsimp only
  generalize hk : kept m.activeSessionId = k at hpending hcomposer
  by_cases hempty : k.pending = ""
  · -- nothing comes back
    rw [if_pos (Or.inr hempty)]
    have hset := h.setPending m.activeSessionId ""
    rw [hk] at hset
    have heq : (⟨if k.draft = "" then k.pending else k.draft, ""⟩ : Kept) = { k with pending := "" } := by
      rw [hempty]
      split
      · next hdraft => rw [hdraft]
      · rfl
    rw [heq]
    exact hset
  · have hback : ¬(m.activeSessionId ≠ m.activeSessionId ∨ k.pending = "") :=
      not_or.mpr ⟨not_not.mpr rfl, hempty⟩
    rw [if_neg hback]
    by_cases hdraft : k.draft = ""
    · rw [if_pos (hcomposer.trans hdraft), if_pos hdraft]
      have hset := (h.typed k.pending).setPending m.activeSessionId ""
      rw [hk, Function.update_self, Function.update_idem] at hset
      exact hset
    · rw [if_neg (fun he => hdraft (hcomposer.symm.trans he)), if_neg hdraft]
      have hset := h.setPending m.activeSessionId ""
      rw [hk] at hset
      exact hset

theorem Holding.reconcile {m : AgentModel} (h : Holding kept m.toModel) :
    Holding ((PromptWorld.reconciles m m.activeSessionId m.agentTurnStatus).apply kept)
      (m.reconcilePendingAgentPrompt m.activeSessionId).toModel := by
  unfold PromptWorld.reconciles AgentModel.reconcilePendingAgentPrompt
  rw [if_neg (not_not.mpr rfl)]
  cases m.agentTurnStatus with
  | failed => exact h.restored
  | completed => exact h.setPending m.activeSessionId ""
  | idle | ready | running | cancelling | waitingApproval => exact h

/-- What a sent prompt makes of the client. -/
theorem Holding.requestAgentTurn {m : AgentModel} (h : Holding kept m.toModel) :
    Holding ((PromptWorld.sends m).apply kept) m.requestAgentTurn.1.toModel ∧
      ∀ sent ∈ m.requestAgentTurn.2, PromptWorld.sends m = .sent sent.1 sent.2 := by
  have hpending := h.pending h.wellFormed.active
  have hnone : ¬m.pendingAgentPrompt m.activeSessionId = none := by
    rw [hpending]
    exact Option.some_ne_none _
  unfold PromptWorld.sends AgentModel.requestAgentTurn
  by_cases hdisabled : m.agentSubmitDisabled = true
  · rw [if_pos hdisabled, if_pos (Or.inl hdisabled)]
    exact ⟨h, fun _ hs => nomatch hs⟩
  · rw [if_neg hdisabled]
    dsimp only
    by_cases hblank : trimPrompt m.agentComposerBuffer = ""
    · rw [if_pos (Or.inl hblank), if_pos (Or.inr hblank)]
      exact ⟨h, fun _ hs => nomatch hs⟩
    · rw [if_neg (not_or.mpr ⟨hblank, hnone⟩), if_neg (not_or.mpr ⟨hdisabled, hblank⟩)]
      refine ⟨?_, fun sent hs => ?_⟩
      · have hsent := (h.setPending m.activeSessionId (trimPrompt m.agentComposerBuffer)).typed ""
        rw [setPendingAgentPrompt_activeSessionId, Function.update_self, Function.update_idem] at hsent
        exact hsent
      · cases hs
        rfl

/-- The client holds what an event leaves, and what it has sent is what the event sends. -/
structure Reacted (kept : UInt8 → Kept) (moved : Moved) (reacted : AgentModel × Option (UInt8 × String)) : Prop where
  holding : Holding (moved.apply kept) reacted.1.toModel
  sent : ∀ sent ∈ reacted.2, moved = .sent sent.1 sent.2

theorem reacted_quiet {moved : Moved} {m : AgentModel} (h : Holding (moved.apply kept) m.toModel) :
    Reacted kept moved (m, none) :=
  ⟨h, fun _ hs => nomatch hs⟩

theorem reacted_requestAgentTurn {m : AgentModel} (h : Holding kept m.toModel) :
    Reacted kept (PromptWorld.sends m) m.requestAgentTurn :=
  ⟨h.requestAgentTurn.1, h.requestAgentTurn.2⟩

theorem sends_of_disconnected {m : AgentModel} (h : m.activeConnection ≠ .ready) : PromptWorld.sends m = .nothing := by
  have hdisabled : m.agentSubmitDisabled = true := by
    unfold AgentModel.agentSubmitDisabled Model.agentComposerInputDisabled
    simp [h]
  exact if_pos (Or.inl hdisabled)

theorem toModel_selectSession (m : AgentModel) (sessionId : UInt8) :
    (m.selectSession sessionId).toModel = (m.chooseSession sessionId).1 := by
  unfold AgentModel.selectSession
  dsimp only
  split <;> rfl

theorem toModel_closeSession (m : AgentModel) (sessionId : UInt8) :
    (m.closeSession sessionId).toModel = (m.toModel.closeSession sessionId).1 := by
  unfold AgentModel.closeSession
  split
  · rfl
  · dsimp only
    split <;> rfl

theorem toModel_applyAgentStartResponse (m : AgentModel) (sessionId : UInt8) (ready : Bool) :
    (m.applyAgentStartResponse sessionId ready).toModel =
      m.setAgentConnection sessionId (if ready then .ready else .failed) := by
  unfold AgentModel.applyAgentStartResponse
  exact (apply_ite AgentModel.toModel _ _ _).trans (ite_self _)

theorem reacted_applyAgentTurnResponse {m : AgentModel} (h : Holding kept m.toModel) (sessionId : UInt8)
    (accepted : Bool) :
    Reacted kept (PromptWorld.refuses m sessionId accepted) (m.applyAgentTurnResponse sessionId accepted, none) := by
  unfold PromptWorld.refuses AgentModel.applyAgentTurnResponse
  split
  · exact reacted_quiet h
  · next hactive =>
      have hid : sessionId = m.activeSessionId := not_not.mp (not_or.mp hactive).1
      rw [hid]
      exact reacted_quiet h.restored

theorem reacted_reconcile {m : AgentModel} (h : Holding kept m.toModel) (sessionId : UInt8) (status : AgentTurnStatus) :
    Reacted kept (PromptWorld.reconciles m sessionId status)
      (if sessionId ≠ m.activeSessionId then m
        else AgentModel.reconcilePendingAgentPrompt { m with agentTurnStatus := status } sessionId, none) := by
  by_cases hactive : sessionId ≠ m.activeSessionId
  · unfold PromptWorld.reconciles
    rw [if_pos hactive, if_pos hactive]
    exact reacted_quiet h
  · rw [if_neg hactive, not_not.mp hactive]
    have hreconcile := Holding.reconcile (m := { m with agentTurnStatus := status }) h
    exact reacted_quiet hreconcile

theorem reacted_retryAgentTurn {w : PromptWorld} (h : Holding w.kept w.model.toModel) (requiresRestart : Bool) :
    Reacted w.kept (w.moved (.retryAgentTurn requiresRestart)) (w.model.retryAgentTurn requiresRestart) := by
  unfold PromptWorld.moved AgentModel.retryAgentTurn
  dsimp only
  split
  · -- nothing is sent
    split
    · exact reacted_quiet h
    · next hquiet hguard =>
        simp only [not_or, ne_eq, not_not] at hguard
        obtain ⟨hmode, -, hstatus, hretry, -⟩ := hguard
        have hrestart : requiresRestart = true := by
          simpa only [hmode, hstatus, hretry, ne_eq, not_true_eq_false, false_or] using hquiet
        rw [if_neg (by rw [hrestart]; decide)]
        exact reacted_quiet (h.sameContents (sameContents_setAgentConnection _ _ _))
  · next hmoved =>
      simp only [not_or, ne_eq, not_not] at hmoved
      obtain ⟨hmode, hstatus, hretry, hrestart⟩ := hmoved
      split
      · next hguard =>
          have hnothing : PromptWorld.sends w.model = .nothing := by
            simp only [hmode, hstatus, hretry, ne_eq, not_true_eq_false, false_or] at hguard
            obtain hconnection | hblank := hguard
            · exact sends_of_disconnected hconnection
            · exact if_pos hblank
          rw [hnothing]
          exact reacted_quiet h
      · rw [if_pos (Bool.of_not_eq_true hrestart)]
        exact reacted_requestAgentTurn h

theorem reacted_applyAgentSessionStarted {w : PromptWorld} (h : Holding w.kept w.model.toModel) (sessionId : UInt8)
    (ready : Bool) :
    Reacted w.kept (w.moved (.agentSessionStarted sessionId ready))
      (w.model.applyAgentSessionStarted sessionId ready) := by
  have hstarted : Holding w.kept (w.model.applyAgentStartResponse sessionId ready).toModel := by
    rw [toModel_applyAgentStartResponse]
    exact h.sameContents (sameContents_setAgentConnection _ _ _)
  have hactive : (w.model.applyAgentStartResponse sessionId ready).activeSessionId = w.model.activeSessionId := by
    rw [toModel_applyAgentStartResponse]
    rfl
  unfold PromptWorld.moved AgentModel.applyAgentSessionStarted
  dsimp only
  by_cases hretry : w.model.agentRetryAfterRestartSessionId = 0 ∨ sessionId ≠ w.model.agentRetryAfterRestartSessionId
  · rw [if_pos hretry, if_pos (hretry.imp_right Or.inl)]
    exact reacted_quiet hstarted
  · rw [if_neg hretry]
    generalize w.model.applyAgentStartResponse sessionId ready = started at hstarted hactive
    have hquiet : Holding w.kept { started with agentRetryAfterRestartSessionId := 0 }.toModel := hstarted
    by_cases hid : sessionId = w.model.activeSessionId
    · obtain ⟨hzero, hsame⟩ := not_or.mp hretry
      rw [if_neg (not_or.mpr ⟨hzero, not_or.mpr ⟨hsame, not_not.mpr hid⟩⟩)]
      have hid' : sessionId = started.activeSessionId := hid.trans hactive.symm
      subst hid'
      cases hfind : Model.findSession started.toModel started.activeSessionId with
      | none =>
          have hmem := hstarted.wellFormed.active
          obtain ⟨session, hsession, hsid⟩ := List.mem_map.mp hmem
          exact absurd hsid (find?_key_eq_none.mp hfind session hsession)
      | some session =>
          have hconnection : started.activeConnection = session.agentConnection := by
            unfold Model.activeConnection Model.activeSession
            rw [hfind]
            rfl
          dsimp only
          by_cases hready : session.agentConnection = .ready
          · rw [if_pos ⟨rfl, hready⟩]
            exact reacted_requestAgentTurn (m := { started with agentRetryAfterRestartSessionId := 0 }) hquiet
          · rw [if_neg fun hboth => hready hboth.2, sends_of_disconnected (hconnection ▸ hready)]
            exact reacted_quiet hquiet
    · rw [if_pos (Or.inr (Or.inr hid))]
      split
      · exact reacted_quiet hquiet
      · rw [if_neg fun hboth => hid (hboth.1.trans hactive)]
        exact reacted_quiet hquiet

theorem toModel_applyAgentPermissionResponse (m : AgentModel) (sessionId : UInt8) (accepted : Bool) :
    (m.applyAgentPermissionResponse sessionId accepted).toModel =
      if sessionId = m.activeSessionId ∧ accepted = true ∧ m.agentRejectionInFlightSessionId = sessionId then
        m.restorePendingAgentPrompt sessionId else m.toModel := by
  have hanswered : ∀ {P : Prop} [Decidable P],
      (if P then { m with agentPermissionInFlightSessionId := 0 } else m).toModel = m.toModel :=
    (apply_ite AgentModel.toModel _ _ _).trans (ite_self _)
  unfold AgentModel.applyAgentPermissionResponse
  dsimp only
  split
  · next hother =>
      have hno : ¬(sessionId = m.activeSessionId ∧ accepted = true ∧ m.agentRejectionInFlightSessionId = sessionId) :=
        fun hall => hother hall.1
      rw [if_neg hno]
      exact hanswered
  · next hactive =>
      split
      · next hrefused =>
          have hno : ¬(sessionId = m.activeSessionId ∧ accepted = true ∧ m.agentRejectionInFlightSessionId = sessionId) :=
            fun hall => Bool.false_ne_true (hrefused.symm.trans hall.2.1)
          rw [if_neg hno]
          exact hanswered
      · next haccepted =>
          have hiff : (sessionId = m.activeSessionId ∧ accepted = true ∧ m.agentRejectionInFlightSessionId = sessionId) =
              (m.agentRejectionInFlightSessionId = sessionId) := by
            simp [not_not.mp hactive, Bool.eq_true_of_not_eq_false haccepted]
          simp only [hiff]

theorem reacted_applyAgentPermissionResponse {w : PromptWorld} (h : Holding w.kept w.model.toModel) (sessionId : UInt8)
    (accepted : Bool) :
    Reacted w.kept (w.moved (.agentPermissionDecided sessionId accepted))
      (w.model.applyAgentPermissionResponse sessionId accepted, none) := by
  refine reacted_quiet ?_
  rw [toModel_applyAgentPermissionResponse]
  unfold PromptWorld.moved PromptWorld.refuses
  dsimp only
  split
  · next hrejected =>
      split
      · next hother =>
          rw [if_neg fun hall => (hother.resolve_right (by decide)) hall.1]
          exact h
      · next hactive =>
          have hid : sessionId = w.model.activeSessionId := not_not.mp (not_or.mp hactive).1
          rw [if_pos ⟨hid, hrejected⟩, hid]
          exact h.restored
  · next hrejected =>
      rw [if_neg fun hall => hrejected hall.2]
      exact h

theorem reacted_react {w : PromptWorld} (h : Holding w.kept w.model.toModel) {event : PromptEvent}
    (horder : PromptInOrder w event) : Reacted w.kept (w.moved event) (w.react event) := by
  have hwf := h.wellFormed
  have hkeeps := h.keeps
  cases event with
  | chooseTerminal => exact reacted_quiet (retabbed_chooseTerminal hwf hkeeps horder.2).holding
  | chooseAgent provider => exact reacted_quiet (retabbed_createAgentSession hwf hkeeps provider horder.2).holding
  | openLoginTerminal provider =>
      exact reacted_quiet (retabbed_openProviderLoginTerminal hwf hkeeps provider horder.2).holding
  | selectSession sessionId =>
      refine reacted_quiet ?_
      show Holding w.kept (w.model.selectSession sessionId).toModel
      rw [toModel_selectSession]
      exact (retabbed_chooseSession hwf hkeeps sessionId).holding
  | closeSession sessionId =>
      refine reacted_quiet ?_
      show Holding w.kept (w.model.closeSession sessionId).toModel
      rw [toModel_closeSession]
      exact (retabbed_closeSession hwf hkeeps sessionId).holding
  | agentComposerChanged text => exact reacted_quiet (h.typed text)
  | agentConnectionChanged sessionId connection =>
      exact reacted_quiet (h.sameContents (sameContents_setAgentConnection _ sessionId connection))
  | agentProvidersRefreshed available authenticated sessionAuth =>
      exact reacted_quiet (h.sameContents (sameContents_applyAgentProviderRefresh _ available authenticated sessionAuth))
  | sendAgentPrompt => exact reacted_requestAgentTurn h
  | retryAgentTurn requiresRestart => exact reacted_retryAgentTurn h requiresRestart
  | agentSessionStarted sessionId ready => exact reacted_applyAgentSessionStarted h sessionId ready
  | verdict index accepted => exact reacted_quiet h
  | agentTurnStarted index arrives =>
      unfold PromptWorld.react PromptWorld.moved
      dsimp only
      cases w.prompts[index]? with
      | none => exact reacted_quiet h
      | some prompt =>
          dsimp only
          split
          · exact reacted_quiet h
          · exact reacted_applyAgentTurnResponse h prompt.session _
  | lateAgentTurnStarted sessionId accepted => exact reacted_applyAgentTurnResponse h sessionId accepted
  | agentSnapshotReceived sessionId result =>
      unfold PromptWorld.react AgentModel.applyAgentSnapshotResponse
      cases result with
      | failed =>
          refine reacted_quiet ?_
          show Holding w.kept (ite _ _ _ : AgentModel).toModel
          split <;> exact h
      | ignored =>
          refine reacted_quiet ?_
          show Holding w.kept (ite _ _ _ : AgentModel).toModel
          split <;> exact h
      | projected status => exact reacted_reconcile h sessionId status
  | agentStateFrame sessionId status => exact reacted_reconcile h sessionId (status.getD w.model.agentTurnStatus)
  | agentFrameStatus sessionId status =>
      refine reacted_quiet ?_
      show Holding w.kept (ite _ _ _ : AgentModel).toModel
      split <;> exact h
  | requestAgentPermission rejects =>
      refine reacted_quiet ?_
      show Holding w.kept (ite _ _ _ : AgentModel).toModel
      split <;> exact h
  | agentPermissionDecided sessionId accepted => exact reacted_applyAgentPermissionResponse h sessionId accepted
  | cancelAgentTurn =>
      refine reacted_quiet ?_
      show Holding w.kept (ite _ _ _ : AgentModel).toModel
      split <;> exact h
  | agentTurnCancelled sessionId accepted =>
      refine reacted_quiet ?_
      show Holding w.kept (ite _ _ _ : AgentModel).toModel
      split <;> exact h

/-! ## Prompts that are not accepted -/

namespace PromptWorld

/-- What the client and Rust learn of a prompt takes nothing back. -/
theorem mem_learnt {w : PromptWorld} {event : PromptEvent} {prompt : Prompt} (h : prompt ∈ w.learnt event)
    (hverdict : prompt.verdict ≠ some true) (hreturned : prompt.returned = false) :
    ∃ before ∈ w.prompts, before.session = prompt.session ∧ before.text = prompt.text ∧
      before.verdict ≠ some true ∧ before.returned = false := by
  have hsame : prompt ∈ w.prompts → ∃ before ∈ w.prompts, before.session = prompt.session ∧ before.text = prompt.text ∧
      before.verdict ≠ some true ∧ before.returned = false := fun hmem => ⟨prompt, hmem, rfl, rfl, hverdict, hreturned⟩
  cases event with
  | verdict index accepted =>
      obtain ⟨i, hi⟩ := List.getElem?_of_mem h
      change (w.prompts.modify index _)[i]? = _ at hi
      rw [List.getElem?_modify] at hi
      obtain ⟨before, hbefore, heq⟩ := Option.map_eq_some_iff.mp hi
      have hmem := List.mem_of_getElem? hbefore
      split at heq
      · subst heq
        refine ⟨before, hmem, rfl, rfl, fun htrue => hverdict ?_, hreturned⟩
        show before.verdict.or _ = some true
        rw [htrue]
        rfl
      · subst heq
        exact ⟨before, hmem, rfl, rfl, hverdict, hreturned⟩
  | agentTurnStarted index arrives =>
      obtain ⟨i, hi⟩ := List.getElem?_of_mem h
      change (w.prompts.modify index _)[i]? = _ at hi
      rw [List.getElem?_modify] at hi
      obtain ⟨before, hbefore, heq⟩ := Option.map_eq_some_iff.mp hi
      have hmem := List.mem_of_getElem? hbefore
      split at heq
      · subst heq
        exact ⟨before, hmem, rfl, rfl, hverdict, hreturned⟩
      · subst heq
        exact ⟨before, hmem, rfl, rfl, hverdict, hreturned⟩
  | _ => exact hsame h

theorem sends_ne_opened (m : AgentModel) (sessionId : UInt8) : sends m ≠ .opened sessionId := by
  unfold sends
  split <;> exact Moved.noConfusion

theorem refuses_ne_opened (m : AgentModel) (sessionId other : UInt8) (accepted : Bool) :
    refuses m sessionId accepted ≠ .opened other := by
  unfold refuses
  split <;> exact Moved.noConfusion

theorem reconciles_ne_opened (m : AgentModel) (sessionId other : UInt8) (status : AgentTurnStatus) :
    reconciles m sessionId status ≠ .opened other := by
  unfold reconciles
  split
  · exact Moved.noConfusion
  · cases status <;> exact Moved.noConfusion

/-- A session is opened under the next id. -/
theorem opened_next {w : PromptWorld} {event : PromptEvent} {sessionId : UInt8} (h : w.moved event = .opened sessionId) :
    sessionId = w.model.nextSessionId := by
  cases event with
  | chooseTerminal => exact (Moved.opened.inj h).symm
  | chooseAgent provider => exact (Moved.opened.inj h).symm
  | openLoginTerminal provider => exact (Moved.opened.inj h).symm
  | sendAgentPrompt => exact absurd h (sends_ne_opened _ _)
  | retryAgentTurn requiresRestart =>
      unfold moved at h
      dsimp only at h
      split at h
      · cases h
      · exact absurd h (sends_ne_opened _ _)
  | agentSessionStarted other ready =>
      unfold moved at h
      dsimp only at h
      split at h
      · cases h
      · exact absurd h (sends_ne_opened _ _)
  | agentTurnStarted index arrives =>
      unfold moved at h
      dsimp only at h
      cases hget : w.prompts[index]? with
      | none =>
          rw [hget] at h
          cases h
      | some prompt =>
          rw [hget] at h
          dsimp only at h
          split at h
          · cases h
          · exact absurd h (refuses_ne_opened _ _ _ _)
  | lateAgentTurnStarted other accepted => exact absurd h (refuses_ne_opened _ _ _ _)
  | agentSnapshotReceived other result =>
      cases result with
      | failed => cases h
      | ignored => cases h
      | projected status => exact absurd h (reconciles_ne_opened _ _ _ _)
  | agentStateFrame other status => exact absurd h (reconciles_ne_opened _ _ _ _)
  | agentPermissionDecided other accepted =>
      unfold moved at h
      dsimp only at h
      split at h
      · exact absurd h (refuses_ne_opened _ _ _ _)
      · cases h
  | agentComposerChanged | selectSession | closeSession | agentConnectionChanged | agentProvidersRefreshed | verdict
  | agentFrameStatus | requestAgentPermission | cancelAgentTurn | agentTurnCancelled => cases h

/-- A prompt that is neither accepted nor back stays pending, whatever moves. -/
theorem pending_apply {w : PromptWorld} (h : PromptSafe w) (hwf : WellFormed w.model.toModel) {event : PromptEvent}
    (horder : PromptInOrder w event) {prompt : Prompt} (hmem : prompt ∈ w.prompts) (hverdict : prompt.verdict ≠ some true)
    (hreturned : prompt.returned = false)
    (hsettled : ¬(((w.moved event).apply w.kept prompt.session).pending ≠ prompt.text ∧
      ((w.moved event).apply w.kept prompt.session).draft = prompt.text)) :
    ((w.moved event).apply w.kept prompt.session).pending = prompt.text := by
  have hheld := h.held prompt hmem hverdict hreturned
  have hout : ∀ {sessionId : UInt8}, prompt.session = sessionId → w.outstanding sessionId ≠ [] := by
    intro sessionId hsession hnil
    have : prompt ∈ w.outstanding sessionId :=
      List.mem_filter.mpr ⟨hmem, decide_eq_true ⟨hsession, hverdict, hreturned⟩⟩
    rw [hnil] at this
    cases this
  have horder' := horder.1
  cases hmoved : w.moved event with
  | nothing => exact hheld
  | opened sessionId =>
      have hne : prompt.session ≠ sessionId := by
        rw [opened_next hmoved]
        exact fun he => hwf.next (he ▸ h.isOpen prompt hmem)
      show (Function.update w.kept sessionId Kept.blank prompt.session).pending = _
      rw [Function.update_of_ne hne]
      exact hheld
  | typed sessionId text =>
      show (Function.update w.kept sessionId _ prompt.session).pending = _
      by_cases he : prompt.session = sessionId
      · rw [← he, Function.update_self]
        exact hheld
      · rw [Function.update_of_ne he]
        exact hheld
  | sent sessionId text =>
      rw [hmoved] at horder'
      show (Function.update w.kept sessionId _ prompt.session).pending = _
      rw [Function.update_of_ne fun he => hout he horder']
      exact hheld
  | restored sessionId =>
      rw [hmoved] at horder' hsettled
      by_cases he : prompt.session = sessionId
      · have hdraft : (w.kept sessionId).draft = "" := horder'.resolve_left (hout he)
        have hback : (Moved.apply w.kept (.restored sessionId) prompt.session).draft = prompt.text := by
          show (Function.update w.kept sessionId _ prompt.session).draft = _
          rw [he, Function.update_self]
          show (if (w.kept sessionId).draft = "" then (w.kept sessionId).pending else _) = _
          rw [if_pos hdraft, ← he]
          exact hheld
        exact not_not.mp fun hne => hsettled ⟨hne, hback⟩
      · show (Function.update w.kept sessionId _ prompt.session).pending = _
        rw [Function.update_of_ne he]
        exact hheld
  | cleared sessionId =>
      rw [hmoved] at horder'
      show (Function.update w.kept sessionId _ prompt.session).pending = _
      rw [Function.update_of_ne fun he => hout he horder']
      exact hheld

theorem settle_session (kept : UInt8 → Kept) (prompt : Prompt) : (settle kept prompt).session = prompt.session := by
  unfold settle
  split <;> rfl

/-- One event keeps the prompts that are not accepted. -/
theorem step_safe {w : PromptWorld} (h : PromptSafe w) (hwf : WellFormed w.model.toModel) {event : PromptEvent}
    (horder : PromptInOrder w event) : PromptSafe (w.step event) ∧ WellFormed (w.step event).model.toModel := by
  have hreacted := reacted_react (w := w) ⟨hwf, h.keeps⟩ horder
  refine ⟨⟨hreacted.holding.keeps, ?_, ?_⟩, hreacted.holding.wellFormed⟩
  · intro prompt hmem
    obtain ⟨before, hbefore, rfl⟩ := List.mem_map.mp hmem
    rw [settle_session]
    exact of_decide_eq_true (List.mem_filter.mp hbefore).2
  · intro prompt hmem hverdict hreturned
    obtain ⟨settled, hsettled, rfl⟩ := List.mem_map.mp hmem
    have hquiet : ¬(((w.moved event).apply w.kept settled.session).pending ≠ settled.text ∧
        ((w.moved event).apply w.kept settled.session).draft = settled.text) := by
      intro hflag
      unfold settle at hreturned
      rw [if_pos hflag] at hreturned
      cases hreturned
    have hsame : settle ((w.moved event).apply w.kept) settled = settled := if_neg hquiet
    change ((w.moved event).apply w.kept (settle ((w.moved event).apply w.kept) settled).session).pending = _
    rw [hsame] at hverdict hreturned ⊢
    obtain hold | hnew := List.mem_append.mp (List.mem_filter.mp hsettled).1
    · obtain ⟨before, hbefore, hsession, htext, hbverdict, hbreturned⟩ := mem_learnt hold hverdict hreturned
      rw [← hsession, ← htext] at hquiet ⊢
      exact pending_apply h hwf horder hbefore hbverdict hbreturned hquiet
    · obtain ⟨sent, hsent, rfl⟩ := List.mem_map.mp hnew
      rw [hreacted.sent sent (Option.mem_toList.mp hsent)]
      show (Function.update w.kept sent.1 ⟨"", sent.2⟩ sent.1).pending = sent.2
      rw [Function.update_self]

end PromptWorld

/-! ## Runs -/

theorem holding_boot {launch : Launch} {store : Store} (h : Sound store.snapshot) :
    Holding (fun _ => Kept.blank) (boot launch store) := by
  have hboot : Inv launch ⟨boot launch ⟨store.snapshot, none⟩, ⟨store.snapshot, none⟩, [], [], [], fun _ => Kept.blank⟩ :=
    @inv_boot launch ⟨store.snapshot, none⟩ h (fun _ hs => (nomatch hs)) [] (List.forall_mem_nil _)
  exact ⟨hboot.wellFormed, hboot.keeps⟩

theorem PromptSafe.run {w : PromptWorld} (h : PromptSafe w) (hwf : WellFormed w.model.toModel) {events : List PromptEvent}
    (horder : AllPromptsInOrder w events) : PromptSafe (events.foldl PromptWorld.step w) := by
  induction events generalizing w with
  | nil => exact h
  | cons event events ih =>
      obtain ⟨hsafe, hwf'⟩ := PromptWorld.step_safe h hwf horder.1
      exact ih hsafe hwf' horder.2

/-- **Main result.** In every run within the condition, a prompt that Rust has not accepted is pending, or its composer
has had it back. -/
theorem prompts_safe (launch : Launch) (store : Store) (hstore : Sound store.snapshot) (events : List PromptEvent)
    (horder : AllPromptsInOrder (PromptWorld.start launch store) events) :
    PromptSafe (PromptWorld.run launch store events) := by
  have hboot : Holding (fun _ => Kept.blank) (boot launch store) := holding_boot hstore
  exact PromptSafe.run ⟨hboot.keeps, List.forall_mem_nil _, List.forall_mem_nil _⟩ hboot.wellFormed horder

instance (w : PromptWorld) : (moved : Moved) → Decidable (MovesInOrder w moved)
  | .sent sessionId _ => inferInstanceAs (Decidable (w.outstanding sessionId = []))
  | .cleared sessionId => inferInstanceAs (Decidable (w.outstanding sessionId = []))
  | .restored sessionId => inferInstanceAs (Decidable (w.outstanding sessionId = [] ∨ (w.kept sessionId).draft = ""))
  | .nothing | .opened _ | .typed _ _ => .isTrue trivial

instance (w : PromptWorld) : (event : PromptEvent) → Decidable (OpensInOrder w event)
  | .chooseTerminal => inferInstanceAs (Decidable (NextFree w.model.toModel))
  | .chooseAgent provider => inferInstanceAs (Decidable (¬(w.model.availableAgentProviders ≠ [] ∧
      w.model.agentProviderAvailable provider = false) → NextFree w.model.toModel))
  | .openLoginTerminal provider =>
      inferInstanceAs (Decidable (provider.loginCommand ≠ none → NextFree w.model.toModel))
  | .selectSession _ | .closeSession _ | .agentComposerChanged _ | .agentConnectionChanged _ _
  | .agentProvidersRefreshed _ _ _ | .sendAgentPrompt | .retryAgentTurn _ | .agentSessionStarted _ _ | .verdict _ _
  | .agentTurnStarted _ _ | .lateAgentTurnStarted _ _ | .agentSnapshotReceived _ _ | .agentStateFrame _ _
  | .agentFrameStatus _ _ | .requestAgentPermission _ | .agentPermissionDecided _ _ | .cancelAgentTurn
  | .agentTurnCancelled _ _ => .isTrue trivial

instance instDecidableAllPromptsInOrder :
    (w : PromptWorld) → (events : List PromptEvent) → Decidable (AllPromptsInOrder w events)
  | _, [] => .isTrue trivial
  | w, event :: events =>
      have := instDecidableAllPromptsInOrder (w.step event) events
      inferInstanceAs (Decidable ((MovesInOrder w (w.moved event) ∧ OpensInOrder w event) ∧
        AllPromptsInOrder (w.step event) events))

/-- A desktop with one provider. -/
def Launch.codex : Launch := ⟨true, false, "http://127.0.0.1:47438/?token=", [.codex], [.codex], [], false⟩

/-- A prompt is refused and comes back; it is sent again, accepted, and its turn completes. -/
def sentTwice : List PromptEvent :=
  [.chooseAgent .codex, .agentSessionStarted 2 true, .agentComposerChanged " hi", .sendAgentPrompt, .verdict 0 false,
    .agentTurnStarted 0 true, .sendAgentPrompt, .selectSession 1, .verdict 1 true, .selectSession 2,
    .agentTurnStarted 1 true, .agentSnapshotReceived 2 (.projected .completed)]

theorem prompts_safe_sentTwice : PromptSafe (PromptWorld.run Launch.codex (Store.new Launch.codex) sentTwice) :=
  prompts_safe Launch.codex (Store.new Launch.codex) sound_default sentTwice (by decide +kernel)

/-- The answer to a snapshot tells of an earlier turn, while the next prompt is on its way. -/
def toldOfEarlierTurn : List PromptEvent :=
  [.chooseAgent .codex, .agentSessionStarted 2 true, .agentComposerChanged "a", .sendAgentPrompt, .verdict 0 true,
    .agentTurnStarted 0 true, .agentStateFrame 2 (some .completed), .agentComposerChanged "b", .sendAgentPrompt,
    .agentSnapshotReceived 2 (.projected .completed)]

/-- The prompt that is on its way is dropped. -/
theorem prompt_dropped : ¬ ∀ launch store, Sound store.snapshot → ∀ events,
    PromptSafe (PromptWorld.run launch store events) := by
  intro h
  have hheld := (h Launch.codex (Store.new Launch.codex) sound_default toldOfEarlierTurn).held
    ⟨2, "b", none, false, false⟩ (by decide +kernel) (by decide) rfl
  exact absurd hheld (by decide +kernel)

end HyperTerm.Desktop
