import Mathlib.Algebra.Group.Nat.Defs
import Mathlib.Data.List.Nodup
import HyperTerm.Lib.Keyed

/-!
# Desktop sessions

The Terminal and Agent tabs of the desktop client, and the snapshot of them that Rust keeps.

* `Model` : the open sessions with their drafts and pending prompts, in parallel arrays;
* `appendSession`, `selectSession`, `closeSession` : tabs are opened, chosen and closed;
* `markDesktopWorkspaceChanged`, `requestDesktopWorkspacePersist`, `applyDesktopWorkspacePersisted` : the snapshot of a
  revision is sent, one at a time;
* `restoreDesktopWorkspace` : the tabs of a snapshot, in a client that has just started.
-/

namespace HyperTerm.Desktop
open HyperTerm.Lib

/-! ## Providers and sessions -/

inductive AgentProvider where
  | codex
  | codexAcp
  | claudeAcp
  | copilotAcp
  deriving DecidableEq, Repr

def AgentProvider.id : AgentProvider → String
  | .codex => "codex"
  | .codexAcp => "codex-acp"
  | .claudeAcp => "claude-acp"
  | .copilotAcp => "copilot-acp"

def AgentProvider.loginCommand : AgentProvider → Option String
  | .codex | .codexAcp => some "codex login"
  | .claudeAcp => some "claude auth login"
  | .copilotAcp => none

def agentProviderFromId (value : String) : Option AgentProvider :=
  if value = "codex" then some .codex
  else if value = "codex-acp" then some .codexAcp
  else if value = "claude-acp" then some .claudeAcp
  else if value = "copilot-acp" then some .copilotAcp
  else none

@[simp] theorem agentProviderFromId_id (provider : AgentProvider) : agentProviderFromId provider.id = some provider := by
  cases provider <;> rfl

/-- The first of `providers` in the order of the picker; `providers` is a bit mask in the client. -/
def firstAvailableAgentProvider (providers : List AgentProvider) : Option AgentProvider :=
  [.codex, .codexAcp, .claudeAcp, .copilotAcp].find? fun provider => provider ∈ providers

inductive SessionMode where
  | terminal
  | agent
  | capsule
  deriving DecidableEq, Repr

inductive AgentConnection where
  | unavailable
  | connecting
  | ready
  | failed
  deriving DecidableEq, Repr

structure Session where
  id : UInt8
  mode : SessionMode := .terminal
  agentProvider : AgentProvider := .codex
  agentConnection : AgentConnection := .unavailable
  deriving DecidableEq

def maxSessions : Nat := 8

/-- What `next_session_id` is after an id: it skips 0 where it wraps. -/
def following (sessionId : UInt8) : UInt8 := if sessionId + 1 = 0 then 1 else sessionId + 1

/-- The state of the client. The arrays hold what is open, `session_count` entries each: what the source keeps past
them is the default, and is not read. The workspace is enabled where the terminal URL is trusted, and then the URL of a
request is always written. -/
structure Model where
  sessionSlots : List Session := [{ id := 1 }]
  activeSessionId : UInt8 := 1
  nextSessionId : UInt8 := 2
  desktopWorkspaceEnabled : Bool := false
  desktopWorkspaceRevision : Nat := 0
  desktopWorkspacePersistedRevision : Nat := 0
  desktopWorkspaceInFlightRevision : Nat := 0
  selectedAgentProvider : AgentProvider := .codex
  availableAgentProviders : List AgentProvider := []
  authenticatedAgentProviders : List AgentProvider := []
  sessionAuthAgentProviders : List AgentProvider := []
  agentBaseUrl : String := ""
  agentComposerBuffer : String := ""
  agentComposerDrafts : List String := [""]
  agentPendingPrompts : List String := [""]

namespace Model

def sessionIds (m : Model) : List UInt8 := m.sessionSlots.map Session.id

def findSession (m : Model) (sessionId : UInt8) : Option Session := findKey Session.id sessionId m.sessionSlots

def activeSession (m : Model) : Option Session := (m.findSession m.activeSessionId).or m.sessionSlots.head?

def isCapsule (m : Model) : Bool := m.activeSession.any fun session => session.mode = .capsule

def agentProviderAvailable (m : Model) (provider : AgentProvider) : Bool := provider ∈ m.availableAgentProviders

def readyAgentProviders (m : Model) : List AgentProvider := m.authenticatedAgentProviders ++ m.sessionAuthAgentProviders

def agentProviderReady (m : Model) (provider : AgentProvider) : Bool := provider ∈ m.readyAgentProviders

/-! ## Drafts -/

def activeSessionIndex (m : Model) : Nat :=
  (m.sessionSlots.findIdx? fun session => session.id = m.activeSessionId).getD 0

def saveActiveAgentComposer (m : Model) : Model :=
  { m with agentComposerDrafts := m.agentComposerDrafts.set m.activeSessionIndex m.agentComposerBuffer }

def loadActiveAgentComposer (m : Model) : Model :=
  { m with agentComposerBuffer := (m.agentComposerDrafts[m.activeSessionIndex]?).getD "" }

def setAgentConnection (m : Model) (sessionId : UInt8) (connection : AgentConnection) : Model :=
  { m with
    sessionSlots := updateFirst (fun session => session.id = sessionId ∧ session.mode = .agent)
      (fun session => { session with agentConnection := connection }) m.sessionSlots }

def requestAgentStart (m : Model) (sessionId : UInt8) : Model :=
  if m.agentBaseUrl = "" then m else m.setAgentConnection sessionId .connecting

/-- The text of the composer after an edit. -/
def agentComposerChanged (m : Model) (text : String) : Model := { m with agentComposerBuffer := text }

/-- Where `pendingAgentPrompt` finds the prompt of a session. -/
def pendingAgentPromptIndex (m : Model) (sessionId : UInt8) : Option Nat :=
  m.sessionSlots.findIdx? fun session => session.id = sessionId

def setPendingAgentPrompt (m : Model) (sessionId : UInt8) (text : String) : Model :=
  match m.pendingAgentPromptIndex sessionId with
  | none => m
  | some index => { m with agentPendingPrompts := m.agentPendingPrompts.set index text }

end Model

/-! ## The snapshot of the workspace -/

structure DesktopSessionWire where
  id : UInt8
  mode : String
  agentProvider : Option String
  deriving DecidableEq

structure DesktopWorkspaceWire where
  version : Nat
  revision : Nat
  activeSessionId : UInt8
  nextSessionId : UInt8
  selectedAgentProvider : String
  sessions : List DesktopSessionWire
  deriving DecidableEq

def Session.wire (session : Session) : DesktopSessionWire where
  id := session.id
  mode := if session.mode = .agent then "agent" else "terminal"
  agentProvider := if session.mode = .agent then some session.agentProvider.id else none

def quoted (text : String) : String := "\"" ++ text ++ "\""

def DesktopSessionWire.json (session : DesktopSessionWire) : String :=
  "\x7b\"id\":" ++ session.id.toNat.repr ++ ",\"mode\":" ++ quoted session.mode ++ ",\"agent_provider\":" ++
    (session.agentProvider.elim "null" quoted) ++ "\x7d"

def commaSeparated : List String → String
  | [] => ""
  | [text] => text
  | text :: texts => text ++ "," ++ commaSeparated texts

/-- The text of a snapshot, as both sides write it; each side reads the other's text back as the same snapshot. -/
def DesktopWorkspaceWire.json (wire : DesktopWorkspaceWire) : String :=
  "\x7b\"version\":" ++ wire.version.repr ++ ",\"revision\":" ++ wire.revision.repr ++ ",\"active_session_id\":" ++
    wire.activeSessionId.toNat.repr ++ ",\"next_session_id\":" ++ wire.nextSessionId.toNat.repr ++
    ",\"selected_agent_provider\":" ++ quoted wire.selectedAgentProvider ++ ",\"sessions\":[" ++
    commaSeparated (wire.sessions.map DesktopSessionWire.json) ++ "]\x7d"

def maxDesktopWorkspaceBytes : Nat := 4 * 1024

/-- `std.math.maxInt(u64)`. -/
def maxRevision : Nat := 2 ^ 64 - 1

namespace Model

def desktopWorkspace (m : Model) : DesktopWorkspaceWire where
  version := 1
  revision := m.desktopWorkspaceRevision
  activeSessionId := m.activeSessionId
  nextSessionId := m.nextSessionId
  selectedAgentProvider := m.selectedAgentProvider.id
  sessions := m.sessionSlots.map Session.wire

/-- What a client has sent, if anything. -/
abbrev Sent := Option DesktopWorkspaceWire

def requestDesktopWorkspacePersist (m : Model) : Model × Sent :=
  if m.desktopWorkspaceEnabled = false ∨ m.desktopWorkspaceInFlightRevision ≠ 0 ∨
      m.desktopWorkspaceRevision ≤ m.desktopWorkspacePersistedRevision then (m, none)
  else if m.desktopWorkspace.json.utf8ByteSize > maxDesktopWorkspaceBytes then (m, none)
  else ({ m with desktopWorkspaceInFlightRevision := m.desktopWorkspaceRevision }, some m.desktopWorkspace)

def markDesktopWorkspaceChanged (m : Model) : Model × Sent :=
  if m.desktopWorkspaceEnabled = false ∨ m.desktopWorkspaceRevision = maxRevision then (m, none)
  else requestDesktopWorkspacePersist { m with desktopWorkspaceRevision := m.desktopWorkspaceRevision + 1 }

/-- `persisted` says that the response came and its status is 204. -/
def applyDesktopWorkspacePersisted (m : Model) (persisted : Bool) : Model × Sent :=
  if m.desktopWorkspaceInFlightRevision = 0 then (m, none)
  else
    let submitted := m.desktopWorkspaceInFlightRevision
    let m' : Model := { m with
      desktopWorkspaceInFlightRevision := 0
      desktopWorkspacePersistedRevision :=
        if persisted then max m.desktopWorkspacePersistedRevision submitted else m.desktopWorkspacePersistedRevision }
    if m'.desktopWorkspaceRevision > submitted then m'.requestDesktopWorkspacePersist else (m', none)

/-! ## Tabs -/

def pushSession (m : Model) (session : Session) : Model :=
  { m with
    agentComposerDrafts := m.agentComposerDrafts ++ [""]
    sessionSlots := m.sessionSlots ++ [session]
    agentPendingPrompts := m.agentPendingPrompts ++ [""]
    activeSessionId := session.id
    nextSessionId := following m.nextSessionId }

def appendSession (m : Model) (mode : SessionMode) : Option (Model × UInt8) :=
  if m.sessionSlots.length ≥ maxSessions then none
  else
    let session : Session := { id := m.nextSessionId, mode, agentProvider := m.selectedAgentProvider }
    some ((m.saveActiveAgentComposer.pushSession session).loadActiveAgentComposer, m.nextSessionId)

def chooseTerminal (m : Model) : Model × Sent :=
  match m.appendSession .terminal with
  | none => (m, none)
  | some (m', _) => m'.markDesktopWorkspaceChanged

def createAgentSession (m : Model) (provider : AgentProvider) : Model × Sent :=
  if m.availableAgentProviders ≠ [] ∧ m.agentProviderAvailable provider = false then (m, none)
  else
    let selected : Model := { m with selectedAgentProvider := provider }
    match selected.appendSession .agent with
    | none => (selected, none)
    | some (m', sessionId) =>
        markDesktopWorkspaceChanged
          (if m'.agentBaseUrl ≠ "" ∧ m'.agentProviderReady provider then m'.requestAgentStart sessionId else m')

def openProviderLoginTerminal (m : Model) (provider : AgentProvider) : Model × Sent :=
  if provider.loginCommand = none then (m, none) else m.chooseTerminal

def selectSession (m : Model) (sessionId : UInt8) : Model :=
  if sessionId ∈ m.sessionIds then { m with activeSessionId := sessionId } else m

/-- `update` of `select_session`. -/
def chooseSession (m : Model) (sessionId : UInt8) : Model × Sent :=
  let selected := m.saveActiveAgentComposer.selectSession sessionId
  if selected.activeSessionId = m.activeSessionId then (selected, none)
  else selected.loadActiveAgentComposer.markDesktopWorkspaceChanged

/-- The session that is active once the one at `index` is closed. -/
def neighbour (m : Model) (index : Nat) : UInt8 :=
  ((if index + 1 < m.sessionSlots.length then m.sessionSlots[index + 1]? else m.sessionSlots[index - 1]?).map
    Session.id).getD 0

def eraseSession (m : Model) (index : Nat) : Model :=
  { m with
    sessionSlots := m.sessionSlots.eraseIdx index
    agentComposerDrafts := m.agentComposerDrafts.eraseIdx index
    agentPendingPrompts := m.agentPendingPrompts.eraseIdx index }

/-- The last session is not closed: the window is. -/
def closeSession (m : Model) (sessionId : UInt8) : Model × Sent :=
  let saved := m.saveActiveAgentComposer
  match saved.sessionSlots.findIdx? fun session => session.id = sessionId with
  | none => (saved, none)
  | some index =>
      if saved.sessionSlots.length = 1 then (saved, none)
      else
        let active := if saved.activeSessionId = sessionId then saved.neighbour index else saved.activeSessionId
        let closed := eraseSession { saved with activeSessionId := active } index
        closed.loadActiveAgentComposer.markDesktopWorkspaceChanged

/-- `applyAgentProviderRefresh`, when the response tells which providers there are. -/
def applyAgentProviderRefresh (m : Model) (available authenticated sessionAuth : List AgentProvider) : Model :=
  let m' : Model := { m with
    availableAgentProviders := available
    authenticatedAgentProviders := authenticated
    sessionAuthAgentProviders := sessionAuth }
  if m'.agentProviderReady m'.selectedAgentProvider then m'
  else
    { m' with
      selectedAgentProvider := (firstAvailableAgentProvider m'.readyAgentProviders).getD
        ((firstAvailableAgentProvider m'.availableAgentProviders).getD .codex) }

/-! ## Restoring -/

def restoreSession (m : Model) (wire : DesktopSessionWire) : Option Session :=
  if wire.mode = "terminal" then
    if wire.agentProvider = none then some { id := wire.id } else none
  else if wire.mode = "agent" then do
    let provider ← agentProviderFromId (← wire.agentProvider)
    some { id := wire.id, mode := .agent, agentProvider := provider,
           agentConnection :=
            if m.agentBaseUrl ≠ "" ∧ m.agentProviderReady provider then .connecting else .unavailable }
  else none

/-- The sessions of a snapshot, with the ids seen before them. -/
def restoreSessions (m : Model) : List UInt8 → List DesktopSessionWire → Option (List Session)
  | _, [] => some []
  | seen, wire :: wires =>
      if wire.id = 0 ∨ wire.id ∈ seen then none
      else do
        let session ← m.restoreSession wire
        let sessions ← m.restoreSessions (wire.id :: seen) wires
        return session :: sessions

/-- `length` is the document's, and `parsed` what it parses to. -/
def restoreDesktopWorkspace (m : Model) (length : Nat) (parsed : Option DesktopWorkspaceWire) : Option Model :=
  if m.desktopWorkspaceEnabled = false ∨ length = 0 ∨ length > maxDesktopWorkspaceBytes ∨ m.isCapsule then none
  else do
    let wire ← parsed
    if wire.version ≠ 1 ∨ wire.sessions = [] ∨ wire.sessions.length > maxSessions ∨ wire.activeSessionId = 0 ∨
        wire.nextSessionId = 0 then none
    else do
      let selected ← agentProviderFromId wire.selectedAgentProvider
      let sessions ← m.restoreSessions [] wire.sessions
      if wire.activeSessionId ∉ wire.sessions.map DesktopSessionWire.id ∨
          wire.nextSessionId ∈ wire.sessions.map DesktopSessionWire.id then none
      else
        some { m with
          sessionSlots := sessions
          agentComposerBuffer := ""
          agentComposerDrafts := sessions.map fun _ => ""
          agentPendingPrompts := sessions.map fun _ => ""
          activeSessionId := wire.activeSessionId
          nextSessionId := wire.nextSessionId
          selectedAgentProvider := selected
          desktopWorkspaceRevision := wire.revision
          desktopWorkspacePersistedRevision := wire.revision
          desktopWorkspaceInFlightRevision := 0 }

end Model

end HyperTerm.Desktop
