import HyperTerm.Drivers.Process
import HyperTerm.Drivers.RequestRaw
import HyperTerm.Lib.Monitor
import HyperTerm.Lib.Text

/-!
# The turns of a client

A client of a provider begins an effect with each turn, and finishes it when the turn is completed or could not be started.
The calls of a client come one after the other. The reader of the process ends the process at any time.

* `TurnShared`, `TurnOp` : the process and the pending prompt, with what the last call has reported, and the accesses;
* `codexStartTurn`, `acpStartTurn` : `start_turn` of the two clients;
* `nextEvent`, `authorize`, `request` : the other calls that touch the process;
* `Restored` : the client can start a turn again, or is at its end;
* `reports_restored` : it is restored after a turn is reported not to be started, or completed.
-/

namespace HyperTerm.Drivers.Turns
open HyperTerm.Protocol HyperTerm.Lib

/-- `CODEX_FRAME_BYTES`. -/
def codexFrameBytes : Nat := 2 * 1024 * 1024

structure PendingPrompt where
  requestId : Fin (2 ^ 64)
  sessionId : String
  turnId : String
  deriving DecidableEq

/-- `start_turn` returned an error, or `next_event` returned the completion of a turn. -/
inductive Report where
  | startFailed
  | completed
  deriving DecidableEq

/-- The prompt is pending with an ACP client only. -/
structure TurnShared where
  process : DriverShared
  prompt : Option PendingPrompt
  report : Option Report
  deriving DecidableEq

/-- A client whose process is ready. -/
def TurnShared.ready : TurnShared := ⟨{ DriverShared.spawned with state := .ready }, none, none⟩

inductive TurnOp where
  | process (op : ProcessOp)
  /-- A call begins, which may be one of `start_turn`. -/
  | call (starting : Bool)
  | readPrompt
  | setPrompt (prompt : Option PendingPrompt)
  | takePrompt
  | report (report : Report)

abbrev TurnAns : TurnOp → Type
  | .process op => ProcessAns op
  | .readPrompt | .takePrompt => Option PendingPrompt
  | _ => Unit

def execTurn : (op : TurnOp) → TurnShared → TurnShared × TurnAns op
  | .process op, s => ({ s with process := (execProcess op s.process).1 }, (execProcess op s.process).2)
  | .call _, s => ({ s with report := none }, ())
  | .readPrompt, s => (s, s.prompt)
  | .setPrompt prompt, s => ({ s with prompt }, ())
  | .takePrompt, s => ({ s with prompt := none }, s.prompt)
  | .report report, s => ({ s with report := some report }, ())

inductive TurnError where
  | adapter (error : AdapterError)
  | invalidMessage (message : String)
  | promptAlreadyRunning
  | exited (state : DriverState)
  | json

abbrev TurnProg (α : Type) := Prog TurnOp TurnAns TurnError α

def turn (op : TurnOp) : TurnProg (TurnAns op) := Prog.perform op

/-- A method of the process, with its error as one of the client. -/
def onProcess {α : Type} (p : ProcessProg α) : TurnProg α := do
  match ← p.embed TurnOp.process fun _ answer => answer with
  | .ok a => pure a
  | .error e => Prog.fail (.adapter (.driver e))

/-! ## Requests -/

/-- Whether the input of the process is there, and whether the pipe takes what is written. -/
structure Pipe where
  input : Bool
  writes : Bool

def send (maxFrameBytes : Nat) (pipe : Pipe) (payload : Value) : TurnProg Unit := do
  let state ← onProcess (access .readState)
  match sendJson maxFrameBytes ⟨state, pipe.input, pipe.writes⟩ payload with
  | .ok () => pure ()
  | .error e => Prog.fail (.adapter (.driver e))

/-- How a wait ends without an event: the deadline is over, `recv_timeout` has waited in vain, and how the process is
terminated then, or there are no more events. -/
inductive Ending where
  | deadline
  | timeout (status : Except ProcessError (Option Bool))
  | disconnected

def Ending.program {α : Type} (error : AdapterError) : Ending → TurnProg α
  | deadline => Prog.fail (.adapter error)
  | timeout status => do
      onProcess (recvTimeout status)
      Prog.fail (.adapter error)
  | disconnected => Prog.fail (.adapter (.driver .eventStreamClosed))

/-- The message of a request and what becomes of it: whether it can be sent, what is received, and how the wait ends if the
response is not among that. -/
structure Request where
  id : Fin (2 ^ 64)
  message : Value
  pipe : Pipe
  inbox : BoundedDriverInbox
  arrivals : List Arrival
  ending : Ending

def Adapter.maxFrameBytes : Adapter → Nat
  | .acp => acpFrameBytes
  | .codex => codexFrameBytes

/-- The result of the events that arrive. -/
def Request.reply (adapter : Adapter) (request : Request) : Except AdapterError Value :=
  (requestRaw adapter request.id none (.start request.inbox) request.arrivals).2

def Request.program (adapter : Adapter) (request : Request) : TurnProg Value := do
  send (Adapter.maxFrameBytes adapter) request.pipe request.message
  match request.reply adapter with
  | .ok response => pure response
  | .error (.timeout id) => request.ending.program (.timeout id)
  | .error e => Prog.fail (.adapter e)

def bounded (value : String) (maximum : Nat) : TurnProg String :=
  if maximum < value.utf8ByteSize then Prog.fail (.invalidMessage ("text exceeds " ++ toString maximum ++ " bytes"))
  else pure value

/-! ## The calls -/

structure CodexStart where
  threadId : String
  prompt : String
  model : Option String
  reasoningEffort : Option String
  request : Request

/-- The parameters of `turn/start`. -/
def CodexStart.params (call : CodexStart) (threadId prompt : String) : Value :=
  let effort := (call.reasoningEffort.map fun effort => ("effort", Value.string effort)).toList
  let model := (call.model.map fun model => ("model", Value.string model)).toList
  .object (effort ++ [("input", .array [.object [("text", .string prompt), ("text_elements", .array []),
    ("type", .string "text")]])] ++ model ++ [("threadId", .string threadId)])

def CodexStart.message (call : CodexStart) (threadId prompt : String) : Value :=
  .object [("id", .ofU64 call.request.id), ("method", .string "turn/start"), ("params", call.params threadId prompt)]

/-- `/result/turn/id`. -/
def turnIdOf (response : Value) : Option String :=
  (((response.get "result").bind (Value.get "turn")).bind (Value.get "id")).bind Value.asStr

/-- `CodexAppServerClient::start_turn`. -/
def codexStartTurn (call : CodexStart) : TurnProg String := do
  let threadId ← bounded call.threadId 4096
  let prompt := String.ofList (trim call.prompt.toList)
  if prompt = "" then Prog.fail (.invalidMessage "turn prompt must not be empty")
  else do
    let prompt ← bounded prompt (16 * 1024)
    onProcess beginEffect
    match ← (({ call.request with message := call.message threadId prompt } : Request).program .codex).attempt with
    | .error error => do
        let state ← onProcess (access .readState)
        if (state : DriverState) = .busy then onProcess finishEffect
        Prog.fail error
    | .ok response =>
        match turnIdOf response with
        | none => Prog.fail (.invalidMessage "turn/start returned no turn id")
        | some turnId => bounded turnId 4096

/-- The message of a prompt is written by the schema of the protocol. -/
structure AcpStart where
  sessionId : String
  prompt : String
  requestId : Fin (2 ^ 64)
  message : Fin (2 ^ 64) → String → String → Value
  pipe : Pipe

/-- `AcpClient::start_turn`. -/
def acpStartTurn (call : AcpStart) : TurnProg String := do
  let sessionId ← bounded call.sessionId 4096
  let prompt := String.ofList (trim call.prompt.toList)
  if prompt = "" then Prog.fail (.invalidMessage "turn prompt must not be empty")
  else do
    let prompt ← bounded prompt (16 * 1024)
    let pending ← turn .readPrompt
    if Option.isSome (pending : Option PendingPrompt) then Prog.fail .promptAlreadyRunning
    else do
      onProcess beginEffect
      let turnId := "acp-turn-" ++ toString call.requestId
      turn (.setPrompt (some ⟨call.requestId, sessionId, turnId⟩))
      match ← (send acpFrameBytes call.pipe (call.message call.requestId sessionId prompt)).attempt with
      | .ok () => pure turnId
      | .error error => do
          turn (.setPrompt none)
          let _ ← (onProcess finishEffect).attempt
          Prog.fail error

/-- What `next_event` returns, as far as it is about the turn. -/
inductive TurnEvent where
  | turnCompleted (threadId : String) (turnId status : Option String)
  | exited (code : Option Int) (state : DriverState)
  | other (payload : Value)

/-- What `next_event` takes from its inbox or from the process, how an answer is sent, what comes of the messages that are
not about the turn, and how the schema of the protocol reads the stop reason. -/
structure NextEvent where
  received : Except Ending DriverEvent
  pipe : Pipe
  elsewhere : Value → Except TurnError Unit
  stopReason : Value → Option (Option String)

def NextEvent.other (call : NextEvent) (payload : Value) : TurnProg TurnEvent :=
  match call.elsewhere payload with
  | .ok () => pure (.other payload)
  | .error error => Prog.fail error

def requiredString (params : Option Value) (key : String) : TurnProg String :=
  match (params.bind (Value.get key)).bind Value.asStr with
  | none => Prog.fail (.invalidMessage ("missing " ++ key))
  | some value => bounded value (64 * 1024)

def unsupportedReply (payload : Value) : Value :=
  .object [("error", .object [("code", .number (.negative ⟨32600, unsupported_lt⟩)), ("message", .string "unsupported by Hyper Term")]),
    ("id", (payload.get "id").getD .null)]

/-- `turn/completed`, in `normalize_message` of Codex. -/
def codexTurnCompleted (params : Option Value) : TurnProg TurnEvent := do
  let state ← onProcess (access .readState)
  if (state : DriverState) = .busy then onProcess finishEffect
  let threadId ← requiredString params "threadId"
  pure (.turnCompleted threadId (((params.bind (Value.get "turn")).bind (Value.get "id")).bind Value.asStr)
    (((params.bind (Value.get "turn")).bind (Value.get "status")).bind Value.asStr))

/-- `normalize_message` of Codex. A notification with an identifier is answered like a request first. -/
def codexNormalizeMessage (call : NextEvent) (payload : Value) : TurnProg TurnEvent :=
  if (payload.get "method").bind Value.asStr = some "turn/completed" then do
    if (payload.get "id").isSome then send codexFrameBytes call.pipe (unsupportedReply payload)
    codexTurnCompleted (payload.get "params")
  else call.other payload

def isPendingPromptResponse (payload : Value) : Option PendingPrompt → Bool
  | none => false
  | some pending => hasResponseId pending.requestId payload && (payload.get "method").isNone

def completePrompt (call : NextEvent) (payload : Value) : TurnProg TurnEvent := do
  match (← turn .takePrompt : Option PendingPrompt) with
  | none => Prog.fail (.invalidMessage "ACP prompt response is stale")
  | some pending => do
      onProcess finishEffect
      match payload.get "error" with
      | some error => Prog.fail (.adapter (.remote pending.requestId error))
      | none =>
          match payload.get "result" with
          | none => Prog.fail (.invalidMessage "ACP prompt has no result")
          | some result =>
              match call.stopReason result with
              | none => Prog.fail .json
              | some status => pure (.turnCompleted pending.sessionId (some pending.turnId) status)

def acpNormalizeMessage (call : NextEvent) (payload : Value) : TurnProg TurnEvent := do
  let prompt ← turn .readPrompt
  if isPendingPromptResponse payload prompt then completePrompt call payload else call.other payload

def nextEvent (adapter : Adapter) (call : NextEvent) : TurnProg TurnEvent :=
  match call.received with
  | .ok (.message _ payload) =>
      match adapter with
      | .acp => acpNormalizeMessage call payload
      | .codex => codexNormalizeMessage call payload
  | .ok (.protocolError message) => Prog.fail (.adapter (.protocol message))
  | .ok (.exited code state) => pure (.exited code state)
  | .error ending => ending.program (.driver .timeout)

/-- `resolve_effect` of Codex, at an authorization that allows an effect. -/
def authorize (pipe : Pipe) (answer : Value) : TurnProg Unit := do
  let state ← onProcess (access .readState)
  match (state : DriverState) with
  | .ready => onProcess beginEffect
  | .busy => pure ()
  | state => Prog.fail (.exited state)
  send codexFrameBytes pipe answer

/-- The calls of a client that touch the process or the prompt. -/
inductive TurnCall : Adapter → Type
  | codexStart (call : CodexStart) : TurnCall .codex
  | acpStart (call : AcpStart) : TurnCall .acp
  | nextEvent {adapter : Adapter} (call : NextEvent) : TurnCall adapter
  | authorize (pipe : Pipe) (answer : Value) : TurnCall .codex
  | request {adapter : Adapter} (call : Request) : TurnCall adapter
  | close {adapter : Adapter} (status : Except ProcessError (Option Bool)) : TurnCall adapter

/-- A call of `start_turn`, with its report. -/
def started (start : TurnProg String) : TurnProg Unit := do
  turn (.call true)
  match ← start.attempt with
  | .ok _ => pure ()
  | .error error => do
      turn (.report .startFailed)
      Prog.fail error

/-- A call of `next_event`, with its report. -/
def received (next : TurnProg TurnEvent) : TurnProg Unit := do
  turn (.call false)
  match ← next with
  | .turnCompleted _ _ _ => turn (.report .completed)
  | _ => pure ()

def TurnCall.program {adapter : Adapter} : TurnCall adapter → TurnProg Unit
  | codexStart call => started (codexStartTurn call)
  | acpStart call => started (acpStartTurn call)
  | nextEvent call => received (Turns.nextEvent adapter call)
  | authorize pipe answer => do
      turn (.call false)
      Turns.authorize pipe answer
  | request call => do
      turn (.call false)
      let _ ← call.program adapter
  | close status => do
      turn (.call false)
      let _ ← onProcess (stop status)

/-! ## What others do -/

/-- The operations at the end of the reader. -/
inductive ReaderOp : ProcessOp → Prop
  | waitForExit (status : Option Bool) : ReaderOp (.waitForExit status)
  | terminateProcess (status : Except ProcessError (Option Bool)) : ReaderOp (.terminateProcess status)
  | readState : ReaderOp .readState
  | swapEffect : ReaderOp .swapEffect
  | setState (state : DriverState) (h : state.isTerminal = true) : ReaderOp (.setState state)
  | reportExit (state : DriverState) : ReaderOp (.reportExit state)

/-- The reader works, or the process ends by itself. -/
inductive Outside : TurnShared → TurnShared → Prop
  | reader (s : TurnShared) {op : ProcessOp} (h : ReaderOp op) : Outside s (execTurn (.process op) s).1
  | ended (s : TurnShared) : Outside s { s with process := s.process.markEnded }

/-- Every operation that the program can perform. -/
def Performs {α : Type} (P : ProcessOp → Prop) : ProcessProg α → Prop
  | .ret _ => True
  | .call op next => P op ∧ ∀ answer, Performs P (next answer)

theorem isTerminal_finalState (protocolFailed : Bool) (status : Option Bool) (previous : DriverState) (uncertain : Bool) :
    (finalState protocolFailed status previous uncertain).isTerminal = true := by
  unfold finalState
  split_ifs with hterminal
  · exact hterminal
  · rfl
  · rfl
  · rfl
  · rfl

/-- The end of the reader is made of these operations. -/
theorem finishAfterOutputClosed_performs (protocolFailed : Bool) (exit : Option Bool)
    (terminated : Except ProcessError (Option Bool)) :
    Performs ReaderOp (finishAfterOutputClosed protocolFailed exit terminated) := by
  have hend (status : Option Bool) : ReaderOp .readState ∧ ∀ previous : DriverState, ReaderOp .swapEffect ∧
      ∀ uncertain : Bool, ReaderOp (.setState (finalState protocolFailed status previous uncertain)) ∧ (Unit →
        ReaderOp (.reportExit (finalState protocolFailed status previous uncertain)) ∧ (Unit → True)) :=
    ⟨.readState, fun previous => ⟨.swapEffect, fun uncertain =>
      ⟨.setState _ (isTerminal_finalState ..), fun _ => ⟨.reportExit _, fun _ => trivial⟩⟩⟩⟩
  cases exit with
  | some status => exact ⟨.waitForExit _, fun _ => hend _⟩
  | none =>
      cases terminated with
      | ok status => exact ⟨.waitForExit _, fun _ => ⟨.terminateProcess _, fun _ => hend _⟩⟩
      | error e => exact ⟨.waitForExit _, fun _ => ⟨.terminateProcess _, fun _ => hend _⟩⟩

/-! ## What is asked -/

/-- The client is at its end, or ready for another turn. -/
def Restored (s : TurnShared) : Prop := s.process.state.isTerminal = true ∨ s.process.state = .ready ∧ s.prompt = none

instance (s : TurnShared) : Decidable (Restored s) := inferInstanceAs (Decidable (_ ∨ _ ∧ _))

/-- A turn is started when none is running. -/
def Allowed : TurnOp → TurnShared → Prop
  | .call true, s => s.process.state ≠ .busy
  | _, _ => True

instance (op : TurnOp) (s : TurnShared) : Decidable (Allowed op s) :=
  match op with
  | .call true => inferInstanceAs (Decidable (s.process.state ≠ .busy))
  | .call false | .process _ | .readPrompt | .setPrompt _ | .takePrompt | .report _ => inferInstanceAs (Decidable True)

/-- A process that is waited for in vain can be terminated. -/
def Ending.Clear : Ending → Prop
  | timeout (.error _) => False
  | _ => True

/-- A response has the identifier of the turn, and it is short enough. -/
def Request.StartsTurn (request : Request) : Prop :=
  ∀ response, request.reply .codex = .ok response → ∃ turnId, turnIdOf response = some turnId ∧ turnId.utf8ByteSize ≤ 4096

def TurnCall.Clear {adapter : Adapter} : TurnCall adapter → Prop
  | codexStart call => call.request.StartsTurn ∧ call.request.ending.Clear
  | acpStart _ => True
  | nextEvent call => ∀ ending, call.received = .error ending → ending.Clear
  | authorize _ _ => True
  | request call => call.ending.Clear
  | close status => ∃ terminated, status = .ok terminated

/-! ## Methods of the process -/

/-- Others may end the process, and leave its state otherwise. -/
def Ends (s t : DriverShared) : Prop := t.state = s.state ∨ t.state.isTerminal = true

/-- The process is in such a state, or has ended. -/
def Within (P : DriverState → Prop) (s : DriverShared) : Prop := P s.state ∨ s.state.isTerminal = true

theorem Within.mono {P Q : DriverState → Prop} {s : DriverShared} (h : Within P s) (hPQ : ∀ state, P state → Q state) :
    Within Q s :=
  h.imp_left (hPQ _)

theorem stable_within (P : DriverState → Prop) : Prog.Stable Ends (Within P) := by
  intro s t ht h
  rcases ht with hstate | hterminal
  · unfold Within
    rw [hstate]
    exact h
  · exact Or.inr hterminal

theorem ends_refl (s : DriverShared) : Ends s s := Or.inl rfl

/-- A method of the process from some of its states to others. -/
abbrev MethodSpec {α : Type} (P : DriverState → Prop) (p : ProcessProg α) (Q : α → DriverState → Prop)
    (E : DriverState → Prop) : Prop :=
  p.Triple execProcess (fun _ _ => True) Ends (fun _ => True) (Within P) (fun a => Within (Q a)) fun _ => Within E

variable {P E : DriverState → Prop}

/-- An operation that does not change the state. -/
theorem access_spec {op : ProcessOp} (h : ∀ s, (execProcess op s).1.state = s.state) :
    MethodSpec P (access op) (fun _ => P) E := by
  refine .perform (stable_within P) (fun _ => stable_within P) fun s _ hs _ => ⟨trivial, ?_⟩
  unfold Within
  rw [h]
  exact hs

theorem readState_spec : MethodSpec P (access .readState) (fun state => fun st => st = state ∧ P st) E :=
  .perform (stable_within P) (fun _ => stable_within _) fun _ _ hs _ => ⟨trivial, hs.imp_left fun hP => ⟨rfl, hP⟩⟩

theorem transition_spec (expected next : DriverState) :
    MethodSpec P (transition expected next) (fun _ state => state = next) (fun state => P state ∧ state ≠ expected) := by
  have haccess : Prog.Triple execProcess (fun _ _ => True) Ends (fun _ => True) (Within P)
      (access (.transition expected next) : ProcessProg (Except DriverState Nat))
      (Prog.Meets (fun _ => Within (· = next)) fun _ => Within fun state => P state ∧ state ≠ expected)
      fun _ => Within fun state => P state ∧ state ≠ expected := by
    refine .perform (stable_within P)
      (Prog.Stable.meets (fun _ => stable_within _) fun _ => stable_within _) fun s _ hs _ => ⟨trivial, ?_⟩
    show Prog.Meets _ _ (s.transition expected next).2 (s.transition expected next).1
    unfold DriverShared.transition
    split_ifs with hstate hready
    · exact hs.imp_left fun hP => ⟨hP, hstate⟩
    · exact Or.inl rfl
    · exact Or.inl rfl
  refine .bind ends_refl haccess fun answer => ?_
  cases answer with
  | ok effect => exact .pure (stable_within (· = next)) fun _ hs => hs
  | error actual => exact .fail (stable_within fun state => P state ∧ state ≠ expected) fun _ hs => hs

theorem beginEffect_spec : MethodSpec (· = .ready) beginEffect (fun _ state => state = .busy) fun _ => False := by
  refine .bind ends_refl ((transition_spec .ready .busy).weaken (fun _ hs => hs) (fun _ _ hs => hs) fun _ s hs => ?_)
    fun effect => access_spec fun _ => rfl
  exact hs.mono fun state h => h.2 h.1

theorem finishEffect_spec : MethodSpec (· = .busy) finishEffect (fun _ state => state = .ready) fun _ => False := by
  refine .bind ends_refl ((transition_spec .busy .ready).weaken (fun _ hs => hs) (fun _ _ hs => hs) fun _ s hs => ?_)
    fun effect => .bind ends_refl (access_spec fun _ => rfl) fun _ => access_spec fun _ => rfl
  exact hs.mono fun state h => h.2 h.1

theorem setState_spec (state : DriverState) : MethodSpec P (access (.setState state)) (fun _ st => st = state) E :=
  .perform (stable_within P) (fun _ => stable_within _) fun _ _ _ _ => ⟨trivial, Or.inl rfl⟩

theorem state_markEnded (s : DriverShared) : s.markEnded.state = s.state := by
  unfold DriverShared.markEnded
  split_ifs
  · rfl
  · rfl

theorem terminateProcess_spec (status : Option Bool) : MethodSpec P (terminateProcess (.ok status)) (fun _ => P) E :=
  .bind ends_refl (access_spec fun s => state_markEnded s) fun _ => .pure (stable_within P) fun _ hs => hs

/-- A process that can be terminated is at its end after `stop`. -/
theorem stop_spec (status : Option Bool) : MethodSpec P (stop (.ok status)) (fun _ _ => False) E := by
  have hterminal {current : DriverState} {s : DriverShared} (hs : Within (fun st => st = current) s)
      (h : current.isTerminal = true) : Within (fun _ => False) s := by
    rcases hs with rfl | hs
    · exact Or.inr h
    · exact Or.inr hs
  refine .bind ends_refl readState_spec fun current => ?_
  dsimp only
  split_ifs with hcurrent
  · exact .pure (stable_within _) fun s hs => hterminal (hs.mono fun _ h => h.1) hcurrent
  · refine .bind ends_refl (setState_spec .closing) fun _ => .bind ends_refl (access_spec fun _ => rfl) fun uncertain =>
      .bind ends_refl (terminateProcess_spec status) fun status => .bind ends_refl (setState_spec _) fun _ =>
        .pure (stable_within _) fun s hs => hterminal hs ?_
    split_ifs
    · rfl
    · rfl
    · rfl

/-- A wait in vain leaves the state, or stops the process. -/
theorem recvTimeout_spec (status : Option Bool) : MethodSpec P (recvTimeout (.ok status)) (fun _ _ => False) P := by
  refine .bind ends_refl (access_spec fun _ => rfl) fun inFlight => ?_
  dsimp only
  split_ifs
  · exact .bind ends_refl (stop_spec status) fun state => .fail (stable_within _) fun s hs => hs.mono fun _ h => h.elim
  · exact .fail (stable_within _) fun s hs => hs

/-! ## Programs of the client -/

/-- Others leave the prompt and the report. -/
def Frame (s t : TurnShared) : Prop := t.prompt = s.prompt ∧ t.report = s.report ∧ Ends s.process t.process

/-- What was reported holds. -/
def Sound (s : TurnShared) : Prop := s.report ≠ none → Restored s

/-- In the middle of a call: the prompt, and the states of the process. -/
def Stage (prompt : Option PendingPrompt) (P : DriverState → Prop) (s : TurnShared) : Prop :=
  s.prompt = prompt ∧ s.report = none ∧ Within P s.process

theorem frame_refl (s : TurnShared) : Frame s s := ⟨rfl, rfl, ends_refl _⟩

theorem frame_trans (s t u : TurnShared) (h : Frame s t) (h' : Frame t u) : Frame s u := by
  refine ⟨h'.1.trans h.1, h'.2.1.trans h.2.1, ?_⟩
  rcases h'.2.2 with hstate | hterminal
  · exact h.2.2.imp hstate.trans fun hterminal => by rwa [hstate]
  · exact Or.inr hterminal

theorem stable_stage (prompt : Option PendingPrompt) (P : DriverState → Prop) : Prog.Stable Frame (Stage prompt P) :=
  fun _ _ ht h => ⟨ht.1.trans h.1, ht.2.1.trans h.2.1, stable_within P _ _ ht.2.2 h.2.2⟩

theorem sound_of_report {s : TurnShared} (h : s.report = none) : Sound s := fun hne => absurd h hne

/-- A program of the client, with what is asked before and after it. -/
abbrev Spec {α : Type} (pre : TurnShared → Prop) (p : TurnProg α) (ok : α → TurnShared → Prop)
    (err : TurnShared → Prop) : Prop :=
  p.Triple execTurn Allowed Frame Sound pre ok fun _ => err

variable {prompt : Option PendingPrompt}

theorem onProcess_spec {α : Type} {p : ProcessProg α} {Q : α → DriverState → Prop} (h : MethodSpec P p Q E) :
    Spec (Stage prompt P) (onProcess p) (fun a => Stage prompt (Q a)) (Stage prompt E) := by
  have hembed : Spec (Stage prompt P) (p.embed TurnOp.process fun _ answer => answer)
      (fun r s => (s.prompt = prompt ∧ s.report = none) ∧
        Prog.Meets (fun a => Within (Q a)) (fun _ => Within E) r s.process) (Stage prompt E) := by
    refine ⟨fun s _ hs => ?_⟩
    have hkeeps : ∀ op t, t.prompt = prompt ∧ t.report = none → Sound t →
        ((execTurn (.process op) t).1.prompt = prompt ∧ (execTurn (.process op) t).1.report = none) ∧
          Sound (execTurn (.process op) t).1 := fun _ _ hframe _ => ⟨hframe, sound_of_report hframe.2⟩
    have hframe : ∀ t u, Frame t u → t.prompt = prompt ∧ t.report = none → u.prompt = prompt ∧ u.report = none :=
      fun _ _ hu ht => ⟨hu.1.trans ht.1, hu.2.1.trans ht.2⟩
    refine (Prog.SafeIf.embed (fun _ _ => rfl) hkeeps (fun _ _ ht => ht.2.2) hframe (fun _ _ _ => trivial)
      (fun _ _ => trivial) ⟨hs.1, hs.2.1⟩ (h.safe s.process trivial hs.2.2)).weaken ?_
    rintro r t _ ⟨hframe, r', rfl, hpost⟩
    exact ⟨hframe, hpost⟩
  refine .bind frame_refl hembed fun r => ?_
  cases r with
  | ok a =>
      refine Prog.Triple.pure (fun s t ht hs => ?_) fun s hs => ⟨hs.1.1, hs.1.2, hs.2⟩
      exact ⟨⟨ht.1.trans hs.1.1, ht.2.1.trans hs.1.2⟩, stable_within (Q a) _ _ ht.2.2 hs.2⟩
  | error e =>
      refine Prog.Triple.fail (fun s t ht hs => ?_) fun s hs => ⟨hs.1.1, hs.1.2, hs.2⟩
      exact ⟨⟨ht.1.trans hs.1.1, ht.2.1.trans hs.1.2⟩, stable_within E _ _ ht.2.2 hs.2⟩

theorem bounded_spec {value : String} {maximum : Nat} :
    Spec (Stage prompt P) (bounded value maximum) (fun _ => Stage prompt P) (Stage prompt P) := by
  unfold bounded
  split_ifs
  · exact .fail (stable_stage _ _) fun _ hs => hs
  · exact .pure (stable_stage _ _) fun _ hs => hs

theorem send_spec {maxFrameBytes : Nat} {pipe : Pipe} {payload : Value} :
    Spec (Stage prompt P) (send maxFrameBytes pipe payload) (fun _ => Stage prompt P) (Stage prompt P) := by
  refine .bind frame_refl (onProcess_spec (readState_spec.weaken (fun _ hs => hs) (fun _ _ hs => hs.mono fun _ h => h.2)
    fun _ _ hs => hs)) fun state => ?_
  cases sendJson maxFrameBytes ⟨state, pipe.input, pipe.writes⟩ payload with
  | ok => exact .pure (stable_stage prompt P) fun _ hs => hs
  | error e => exact .fail (stable_stage prompt P) fun _ hs => hs

theorem ending_spec {α : Type} {ending : Ending} {error : AdapterError} (h : ending.Clear) {Q : α → TurnShared → Prop} :
    Spec (Stage prompt P) (ending.program error) Q (Stage prompt P) := by
  cases ending with
  | deadline => exact .fail (stable_stage _ _) fun _ hs => hs
  | timeout status =>
      cases status with
      | ok status =>
          exact .bind frame_refl (onProcess_spec (recvTimeout_spec status)) fun _ =>
            .fail (stable_stage _ _) fun s hs => ⟨hs.1, hs.2.1, hs.2.2.mono fun _ h => h.elim⟩
      | error e => exact h.elim
  | disconnected => exact .fail (stable_stage _ _) fun _ hs => hs

/-- A request leaves the state, and what it returns is the response. -/
theorem request_spec {adapter : Adapter} {request : Request} (h : request.ending.Clear) :
    Spec (Stage prompt P) (request.program adapter)
      (fun response s => request.reply adapter = .ok response ∧ Stage prompt P s) (Stage prompt P) := by
  refine .bind frame_refl send_spec fun _ => ?_
  cases hreply : request.reply adapter with
  | ok response => exact .pure (stable_stage _ _) fun _ hs => ⟨rfl, hs⟩
  | error e =>
      cases e with
      | timeout id => exact ending_spec h
      | remote id error => exact .fail (stable_stage _ _) fun _ hs => hs
      | protocol message => exact .fail (stable_stage _ _) fun _ hs => hs
      | exited state => exact .fail (stable_stage _ _) fun _ hs => hs
      | inboxOverflow => exact .fail (stable_stage _ _) fun _ hs => hs
      | driver e => exact .fail (stable_stage _ _) fun _ hs => hs

/-! ## The calls -/

/-- `start_turn` of Codex starts a turn or leaves the process ready. -/
theorem codexStartTurn_spec {call : CodexStart} (hstarts : call.request.StartsTurn) (hending : call.request.ending.Clear) :
    Spec (Stage none (· = .ready)) (codexStartTurn call) (fun _ => Stage none (· = .busy)) (Stage none (· = .ready)) := by
  refine .bind frame_refl bounded_spec fun threadId => ?_
  dsimp only
  split_ifs
  · exact .fail (stable_stage _ _) fun _ hs => hs
  refine .bind frame_refl bounded_spec fun prompt => .bind frame_refl ((onProcess_spec beginEffect_spec).weaken
    (fun _ hs => hs) (fun _ _ hs => hs) fun _ s hs => ⟨hs.1, hs.2.1, hs.2.2.mono fun _ h => h.elim⟩) fun _ =>
    .bind frame_refl (Prog.Triple.attempt (request_spec hending)) fun r => ?_
  cases r with
  | ok response =>
      -- The response has the identifier of the turn.
      refine Prog.Triple.of_and fun hreply => ?_
      obtain ⟨turnId, hturnId, hbound⟩ := hstarts response hreply
      dsimp only
      rw [hturnId]
      dsimp only
      rw [bounded, if_neg (Nat.not_lt.2 hbound)]
      exact .pure (stable_stage _ _) fun _ hs => hs
  | error error =>
      have hread : Spec (Stage none (· = .busy)) (onProcess (access .readState))
          (fun state : DriverState => Stage none fun st => st = state ∧ st = .busy) (Stage none (· = .ready)) :=
        onProcess_spec readState_spec
      refine .bind frame_refl hread fun state => ?_
      split_ifs with hbusy
      · exact .bind frame_refl ((onProcess_spec finishEffect_spec).weaken
          (fun s hs => ⟨hs.1, hs.2.1, hs.2.2.mono fun _ h => h.2⟩) (fun _ _ hs => hs)
          fun _ s hs => ⟨hs.1, hs.2.1, hs.2.2.mono fun _ h => h.elim⟩) fun _ =>
          .fail (stable_stage none (· = .ready)) fun _ hs => hs
      · exact .fail (stable_stage _ _) fun s hs =>
          ⟨hs.1, hs.2.1, hs.2.2.mono fun _ h => absurd (h.1.symm.trans h.2) hbusy⟩

/-- Between two calls the process is ready without a prompt, or busy with a turn. -/
def MayRest (adapter : Adapter) (prompt : Option PendingPrompt) (state : DriverState) : Prop :=
  state = .ready ∧ prompt = none ∨ state = .busy ∧ (adapter = .acp → prompt.isSome = true)

structure AtRest (adapter : Adapter) (s : TurnShared) : Prop where
  prompt : adapter = .codex → s.prompt = none
  process : Within (MayRest adapter s.prompt) s.process

/-- The end of a call that has reported nothing. -/
def Quiet (adapter : Adapter) (s : TurnShared) : Prop := s.report = none ∧ AtRest adapter s

/-- The end of a call that may report that a turn is over. -/
def Free (adapter : Adapter) (s : TurnShared) : Prop := Quiet adapter s ∧ Restored s

variable {adapter : Adapter}

theorem AtRest.frame {s t : TurnShared} (h : AtRest adapter s) (ht : Frame s t) : AtRest adapter t := by
  refine ⟨fun hcodex => ht.1.trans (h.prompt hcodex), ?_⟩
  rw [ht.1]
  exact stable_within _ _ _ ht.2.2 h.process

theorem stable_quiet : Prog.Stable Frame (Quiet adapter) := fun _ _ ht h => ⟨ht.2.1.trans h.1, h.2.frame ht⟩

theorem stable_free : Prog.Stable Frame (Free adapter) := by
  intro s t ht h
  refine ⟨stable_quiet s t ht h.1, ?_⟩
  unfold Restored
  rw [ht.1]
  exact or_comm.1 (stable_within (fun state => state = .ready ∧ s.prompt = none) _ _ ht.2.2 (or_comm.1 h.2))

theorem quiet_of_stage {s : TurnShared} (hcodex : adapter = .codex → prompt = none)
    (h : Stage prompt (MayRest adapter prompt) s) : Quiet adapter s := by
  obtain ⟨rfl, hreport, hprocess⟩ := h
  exact ⟨hreport, hcodex, hprocess⟩

theorem free_of_stage {s : TurnShared} (h : Stage none (· = .ready) s) : Free adapter s := by
  refine ⟨quiet_of_stage (fun _ => rfl) ⟨h.1, h.2.1, h.2.2.mono fun _ hstate => Or.inl ⟨hstate, rfl⟩⟩, ?_⟩
  exact or_comm.1 (h.2.2.imp_left fun hstate => ⟨hstate, h.1⟩)

/-- A process at its end is restored, whatever the prompt. -/
theorem free_of_ended {s : TurnShared} (hcodex : adapter = .codex → prompt = none) (h : Stage prompt (fun _ => False) s) :
    Free adapter s :=
  ⟨quiet_of_stage hcodex ⟨h.1, h.2.1, h.2.2.mono fun _ h => h.elim⟩, h.2.2.elim False.elim Or.inl⟩

theorem readPrompt_spec {err : TurnShared → Prop} : Spec (Stage prompt P) (turn .readPrompt)
    (fun answer s => answer = prompt ∧ Stage prompt P s) err :=
  .perform (stable_stage _ _) (fun _ _ _ ht hs => ⟨hs.1, stable_stage _ _ _ _ ht hs.2⟩) fun _ _ hs _ =>
    ⟨sound_of_report hs.2.1, hs.1, hs⟩

theorem takePrompt_spec {err : TurnShared → Prop} : Spec (Stage prompt P) (turn .takePrompt)
    (fun answer s => answer = prompt ∧ Stage none P s) err :=
  .perform (stable_stage _ _) (fun _ _ _ ht hs => ⟨hs.1, stable_stage _ _ _ _ ht hs.2⟩) fun _ _ hs _ =>
    ⟨sound_of_report hs.2.1, hs.1, rfl, hs.2⟩

theorem setPrompt_spec (prompt' : Option PendingPrompt) {err : TurnShared → Prop} :
    Spec (Stage prompt P) (turn (.setPrompt prompt')) (fun _ => Stage prompt' P) err :=
  .perform (stable_stage _ _) (fun _ => stable_stage _ _) fun _ _ hs _ =>
    ⟨sound_of_report hs.2.1, rfl, hs.2.1, hs.2.2⟩

/-- `start_turn` of ACP starts a turn or leaves the client restored. -/
theorem acpStartTurn_spec {call : AcpStart} :
    Spec (Stage prompt fun state => state = .ready ∧ prompt = none) (acpStartTurn call) (fun _ => Quiet .acp) (Free .acp) := by
  have hfree : ∀ s, Stage prompt (fun state => state = .ready ∧ prompt = none) s → Free .acp s := by
    intro s hs
    refine ⟨quiet_of_stage (by intro h; cases h) ⟨hs.1, hs.2.1, hs.2.2.mono fun _ h => Or.inl h⟩, ?_⟩
    rcases hs.2.2 with ⟨hready, hnone⟩ | hterminal
    · exact Or.inr ⟨hready, hs.1.trans hnone⟩
    · exact Or.inl hterminal
  refine .bind frame_refl (bounded_spec.weaken (fun _ hs => hs) (fun _ _ hs => hs) fun _ => hfree) fun sessionId => ?_
  dsimp only
  split_ifs
  · exact .fail (stable_stage _ _) hfree
  refine .bind frame_refl (bounded_spec.weaken (fun _ hs => hs) (fun _ _ hs => hs) fun _ => hfree) fun text =>
    .bind frame_refl readPrompt_spec fun pending => Prog.Triple.of_and fun hpending => ?_
  split_ifs with hsome
  · exact .fail (stable_stage _ _) hfree
  have hnone : prompt = none := by
    rw [← hpending]
    exact Option.not_isSome_iff_eq_none.1 hsome
  subst hnone
  refine .bind frame_refl ((onProcess_spec beginEffect_spec).weaken
    (fun s hs => ⟨hs.1, hs.2.1, hs.2.2.mono fun _ h => h.1⟩) (fun _ _ hs => hs)
    fun _ s hs => free_of_ended (fun _ => rfl) hs) fun _ => .bind frame_refl (setPrompt_spec _) fun _ =>
      .bind frame_refl (Prog.Triple.attempt send_spec) fun r => ?_
  cases r with
  | ok =>
      exact .pure (stable_stage _ _) fun s hs => quiet_of_stage (by intro h; cases h)
        ⟨hs.1, hs.2.1, hs.2.2.mono fun _ h => Or.inr ⟨h, fun _ => rfl⟩⟩
  | error error =>
      refine .bind frame_refl (setPrompt_spec none) fun _ => .bind frame_refl
        (Prog.Triple.attempt (onProcess_spec finishEffect_spec)) fun r => ?_
      cases r with
      | ok => exact .fail (stable_stage none (· = .ready)) fun _ hs => free_of_stage hs
      | error error => exact .fail (stable_stage none fun _ => False) fun _ hs => free_of_ended (fun _ => rfl) hs

/-- A completion is reported when the client is restored. -/
def Told (adapter : Adapter) : TurnEvent → TurnShared → Prop
  | .turnCompleted _ _ _ => Free adapter
  | _ => Quiet adapter

theorem requiredString_spec {params : Option Value} {key : String} :
    Spec (Stage prompt P) (requiredString params key) (fun _ => Stage prompt P) (Stage prompt P) := by
  unfold requiredString
  cases (params.bind (Value.get key)).bind Value.asStr with
  | none => exact .fail (stable_stage prompt P) fun _ hs => hs
  | some value => exact bounded_spec

theorem other_spec {call : NextEvent} {payload : Value} (hcodex : adapter = .codex → prompt = none) :
    Spec (Stage prompt (MayRest adapter prompt)) (call.other payload) (Told adapter) (Quiet adapter) := by
  unfold NextEvent.other
  cases call.elsewhere payload with
  | ok => exact .pure (stable_stage _ _) fun _ hs => quiet_of_stage hcodex hs
  | error error => exact .fail (stable_stage _ _) fun _ hs => quiet_of_stage hcodex hs

theorem codexTurnCompleted_spec {params : Option Value} :
    Spec (Stage none (MayRest .codex none)) (codexTurnCompleted params) (Told .codex) (Quiet .codex) := by
  have hrest : Spec (Stage none (· = .ready)) (do
      let threadId ← requiredString params "threadId"
      pure (.turnCompleted threadId (((params.bind (Value.get "turn")).bind (Value.get "id")).bind Value.asStr)
        (((params.bind (Value.get "turn")).bind (Value.get "status")).bind Value.asStr)))
      (Told .codex) (Quiet .codex) :=
    .bind frame_refl (requiredString_spec.weaken (fun _ hs => hs) (fun _ _ hs => hs) fun _ _ hs => (free_of_stage hs).1)
      fun threadId => .pure (stable_stage _ _) fun _ hs => free_of_stage hs
  have hread : Spec (Stage none (MayRest .codex none)) (onProcess (access .readState))
      (fun state : DriverState => Stage none fun st => st = state ∧ MayRest .codex none st) (Quiet .codex) :=
    (onProcess_spec readState_spec).weaken (fun _ hs => hs) (fun _ _ hs => hs) fun _ _ hs => quiet_of_stage (fun _ => rfl) hs
  refine .bind frame_refl hread fun state => ?_
  split_ifs with hbusy
  · exact .bind frame_refl ((onProcess_spec finishEffect_spec).weaken
      (fun s hs => ⟨hs.1, hs.2.1, hs.2.2.mono fun _ h => h.1.trans hbusy⟩) (fun _ _ hs => hs)
      fun _ s hs => (free_of_ended (fun _ => rfl) hs).1) fun _ => hrest
  · refine hrest.weaken (fun s hs => ⟨hs.1, hs.2.1, hs.2.2.mono fun st h => ?_⟩) (fun _ _ hs => hs) fun _ _ hs => hs
    exact h.2.elim And.left fun hst => absurd (h.1.symm.trans hst.1) hbusy

theorem codexNormalizeMessage_spec {call : NextEvent} {payload : Value} :
    Spec (Stage none (MayRest .codex none)) (codexNormalizeMessage call payload) (Told .codex) (Quiet .codex) := by
  unfold codexNormalizeMessage
  split_ifs
  · exact .bind frame_refl (send_spec.weaken (fun _ hs => hs) (fun _ _ hs => hs) fun _ _ hs =>
      quiet_of_stage (fun _ => rfl) hs) fun _ => codexTurnCompleted_spec
  · exact codexTurnCompleted_spec
  · exact other_spec fun _ => rfl

theorem completePrompt_spec {call : NextEvent} {payload : Value} (hprompt : prompt.isSome = true) :
    Spec (Stage prompt (MayRest .acp prompt)) (completePrompt call payload) (Told .acp) (Quiet .acp) := by
  obtain ⟨pending, rfl⟩ := Option.isSome_iff_exists.1 hprompt
  have hbusy (state : DriverState) (h : MayRest .acp (some pending) state) : state = .busy :=
    h.elim (fun h => by cases h.2) And.left
  refine .bind frame_refl takePrompt_spec fun answer => Prog.Triple.of_and fun hanswer => ?_
  rw [hanswer]
  refine .bind frame_refl ((onProcess_spec finishEffect_spec).weaken
    (fun s hs => ⟨hs.1, hs.2.1, hs.2.2.mono hbusy⟩) (fun _ _ hs => hs)
    fun _ s hs => (free_of_ended (fun _ => rfl) hs).1) fun _ => ?_
  have hfail (error : TurnError) : Spec (Stage none (· = .ready)) (Prog.fail error) (Told .acp) (Quiet .acp) :=
    .fail (stable_stage _ _) fun _ hs => (free_of_stage hs).1
  cases payload.get "error" with
  | some error => exact hfail _
  | none =>
      cases payload.get "result" with
      | none => exact hfail _
      | some result =>
          dsimp only
          cases call.stopReason result with
          | none => exact hfail _
          | some status => exact .pure (stable_stage _ _) fun _ hs => free_of_stage hs

theorem acpNormalizeMessage_spec {call : NextEvent} {payload : Value} :
    Spec (Stage prompt (MayRest .acp prompt)) (acpNormalizeMessage call payload) (Told .acp) (Quiet .acp) := by
  refine .bind frame_refl readPrompt_spec fun answer => Prog.Triple.of_and fun hanswer => ?_
  subst hanswer
  split_ifs with hresponse
  · refine completePrompt_spec ?_
    cases answer with
    | none => cases hresponse
    | some pending => rfl
  · exact other_spec (by intro h; cases h)

theorem nextEvent_spec {call : NextEvent} (hclear : ∀ ending, call.received = .error ending → ending.Clear)
    (hcodex : adapter = .codex → prompt = none) :
    Spec (Stage prompt (MayRest adapter prompt)) (nextEvent adapter call) (Told adapter) (Quiet adapter) := by
  unfold nextEvent
  cases hreceived : call.received with
  | error ending =>
      exact (ending_spec (hclear ending hreceived)).weaken (fun _ hs => hs) (fun _ _ hs => hs)
        fun _ _ hs => quiet_of_stage hcodex hs
  | ok event =>
      cases event with
      | message sequence payload =>
          cases adapter with
          | acp => exact acpNormalizeMessage_spec
          | codex =>
              rw [hcodex rfl]
              exact codexNormalizeMessage_spec
      | protocolError message => exact .fail (stable_stage _ _) fun _ hs => quiet_of_stage hcodex hs
      | exited code state => exact .pure (stable_stage _ _) fun _ hs => quiet_of_stage hcodex hs

theorem authorize_spec {pipe : Pipe} {answer : Value} :
    Spec (Stage none (MayRest .codex none)) (authorize pipe answer) (fun _ => Quiet .codex) (Quiet .codex) := by
  have hsend {P : DriverState → Prop} (hP : ∀ state, P state → MayRest .codex none state) :
      Spec (Stage none P) (send codexFrameBytes pipe answer) (fun _ => Quiet .codex) (Quiet .codex) :=
    send_spec.weaken (fun _ hs => hs) (fun _ s hs => quiet_of_stage (fun _ => rfl) ⟨hs.1, hs.2.1, hs.2.2.mono hP⟩)
      fun _ s hs => quiet_of_stage (fun _ => rfl) ⟨hs.1, hs.2.1, hs.2.2.mono hP⟩
  have hread : Spec (Stage none (MayRest .codex none)) (onProcess (access .readState))
      (fun state : DriverState => Stage none fun st => st = state ∧ MayRest .codex none st) (Quiet .codex) :=
    (onProcess_spec readState_spec).weaken (fun _ hs => hs) (fun _ _ hs => hs) fun _ _ hs => quiet_of_stage (fun _ => rfl) hs
  have hfail {state : DriverState} (error : TurnError) :
      Spec (Stage none fun st => st = state ∧ MayRest .codex none st) (Prog.fail error : TurnProg Unit)
        (fun _ => Quiet .codex) (Quiet .codex) :=
    .fail (stable_stage _ _) fun s hs => quiet_of_stage (fun _ => rfl) ⟨hs.1, hs.2.1, hs.2.2.mono fun _ h => h.2⟩
  refine .bind frame_refl hread fun state => ?_
  cases state with
  | ready =>
      exact .bind frame_refl ((onProcess_spec beginEffect_spec).weaken
        (fun s hs => ⟨hs.1, hs.2.1, hs.2.2.mono fun _ h => h.1⟩) (fun _ _ hs => hs)
        fun _ s hs => (free_of_ended (fun _ => rfl) hs).1) fun _ => hsend fun _ h => Or.inr ⟨h, (by intro h; cases h)⟩
  | busy => exact hsend fun _ h => h.2
  | starting | waiting | closing | closed | failed | unknownExecution => exact hfail _

/-! ## Runs -/

/-- A call begins between two others. -/
theorem call_spec {starting : Bool} {pre : TurnShared → Prop} {err : TurnShared → Prop} (hstable : Prog.Stable Frame pre)
    (h : ∀ s, AtRest adapter s → Allowed (.call starting) s → pre { s with report := none }) :
    Spec (AtRest adapter) (turn (.call starting)) (fun _ => pre) err :=
  .perform (fun _ _ ht hs => hs.frame ht) (fun _ => hstable) fun s _ hs hallowed => ⟨sound_of_report rfl, h s hs hallowed⟩

theorem report_spec {report : Report} {err : TurnShared → Prop} :
    Spec (Free adapter) (turn (.report report)) (fun _ => AtRest adapter) err :=
  .perform stable_free (fun _ _ _ ht hs => hs.frame ht) fun _ _ hs _ => ⟨fun _ => hs.2, ⟨hs.1.2.prompt, hs.1.2.process⟩⟩

theorem started_spec {start : TurnProg String} (h : Spec (Free adapter) start (fun _ => Quiet adapter) (Free adapter)) :
    Spec (AtRest adapter) (started start) (fun _ => AtRest adapter) (AtRest adapter) := by
  refine .bind frame_refl (call_spec stable_free fun s hs hidle => ?_) fun _ => .bind frame_refl (.attempt h) fun r => ?_
  · refine ⟨⟨rfl, hs.prompt, hs.process⟩, ?_⟩
    rcases hs.process with (⟨hready, hnone⟩ | ⟨hbusy, -⟩) | hterminal
    · exact Or.inr ⟨hready, hnone⟩
    · exact absurd hbusy hidle
    · exact Or.inl hterminal
  · cases r with
    | ok turnId => exact .pure stable_quiet fun _ hs => hs.2
    | error error => exact .bind frame_refl report_spec fun _ => .fail (fun _ _ ht hs => hs.frame ht) fun _ hs => hs

/-- A program for every prompt. -/
theorem of_quiet {α : Type} {p : TurnProg α} {ok : α → TurnShared → Prop} {err : TurnShared → Prop}
    (h : ∀ prompt, (adapter = .codex → prompt = none) → Spec (Stage prompt (MayRest adapter prompt)) p ok err) :
    Spec (Quiet adapter) p ok err :=
  ⟨fun s hi hs => (h s.prompt hs.2.prompt).safe s hi ⟨rfl, hs.1, hs.2.process⟩⟩

theorem quiet_call_spec {α : Type} {p : TurnProg α} {ok : α → TurnShared → Prop} (h : Spec (Quiet adapter) p ok (Quiet adapter)) :
    Spec (AtRest adapter) (do
      turn (.call false)
      p) ok (AtRest adapter) :=
  .bind frame_refl (call_spec stable_quiet fun _ hs _ => ⟨rfl, hs.prompt, hs.process⟩) fun _ =>
    h.weaken (fun _ hs => hs) (fun _ _ hs => hs) fun _ _ hs => hs.2

theorem received_spec {next : TurnProg TurnEvent} (h : Spec (Quiet adapter) next (Told adapter) (Quiet adapter)) :
    Spec (AtRest adapter) (received next) (fun _ => AtRest adapter) (AtRest adapter) := by
  refine quiet_call_spec (.bind frame_refl h fun event => ?_)
  cases event with
  | turnCompleted threadId turnId status => exact report_spec
  | exited code state => exact .pure stable_quiet fun _ hs => hs.2
  | other payload => exact .pure stable_quiet fun _ hs => hs.2

theorem program_spec {call : TurnCall adapter} (h : call.Clear) :
    Spec (AtRest adapter) call.program (fun _ => AtRest adapter) (AtRest adapter) := by
  cases call with
  | codexStart call =>
      refine started_spec ((codexStartTurn_spec h.1 h.2).weaken (fun s hs => ?_) (fun _ s hs => ?_) fun _ _ => free_of_stage)
      · exact ⟨hs.1.2.prompt rfl, hs.1.1, or_comm.1 (hs.2.imp_right And.left)⟩
      · exact quiet_of_stage (fun _ => rfl) ⟨hs.1, hs.2.1, hs.2.2.mono fun _ h => Or.inr ⟨h, (by intro h; cases h)⟩⟩
  | acpStart call =>
      refine started_spec ⟨fun s hi hs => (@acpStartTurn_spec s.prompt call).safe s hi ⟨rfl, hs.1.1, or_comm.1 hs.2⟩⟩
  | nextEvent call => exact received_spec (of_quiet fun _ hcodex => nextEvent_spec h hcodex)
  | authorize pipe answer =>
      have hauthorize : Spec (Quiet .codex) (Turns.authorize pipe answer) (fun _ => Quiet .codex) (Quiet .codex) := by
        refine of_quiet fun prompt hcodex => ?_
        rw [hcodex rfl]
        exact authorize_spec
      exact quiet_call_spec (hauthorize.weaken (fun _ hs => hs) (fun _ _ hs => hs.2) fun _ _ hs => hs)
  | request call =>
      refine quiet_call_spec (of_quiet fun prompt hcodex => ?_)
      have hleaves : Spec (Stage prompt (MayRest adapter prompt)) (call.program adapter)
          (fun _ => Stage prompt (MayRest adapter prompt)) (Quiet adapter) :=
        (request_spec h).weaken (fun _ hs => hs) (fun _ _ hs => hs.2) fun _ _ hs => quiet_of_stage hcodex hs
      exact .bind frame_refl hleaves fun _ => .pure (stable_stage _ _) fun _ hs => (quiet_of_stage hcodex hs).2
  | close status =>
      obtain ⟨terminated, rfl⟩ := h
      exact quiet_call_spec (of_quiet fun prompt hcodex => .bind frame_refl ((onProcess_spec (stop_spec terminated)).weaken
        (fun _ hs => hs) (fun _ _ hs => hs) fun _ _ hs => (free_of_ended hcodex hs).1) fun _ =>
        .pure (stable_stage prompt fun _ => False) fun _ hs => (free_of_ended hcodex hs).1.2)

/-- Others end the process, and leave what was reported true. -/
theorem outside_frame {s t : TurnShared} (h : Outside s t) : Frame s t := by
  cases h with
  | ended => exact ⟨rfl, rfl, Or.inl (state_markEnded _)⟩
  | @reader op h =>
      refine ⟨rfl, rfl, ?_⟩
      cases h with
      | waitForExit status =>
          cases status with
          | none => exact Or.inl rfl
          | some status => exact Or.inl (state_markEnded _)
      | terminateProcess status =>
          cases status with
          | ok status => exact Or.inl (state_markEnded _)
          | error e => exact Or.inl rfl
      | readState => exact Or.inl rfl
      | swapEffect => exact Or.inl rfl
      | setState state h => exact Or.inr h
      | reportExit state =>
          refine Or.inl ?_
          show (s.process.reportExit state).state = _
          unfold DriverShared.reportExit
          split_ifs
          · rfl
          · rfl

theorem sound_frame {s t : TurnShared} (ht : Frame s t) (h : Sound s) : Sound t := by
  intro hreport
  rw [ht.2.1] at hreport
  unfold Restored
  rw [ht.1]
  exact or_comm.1 (stable_within (fun state => state = .ready ∧ s.prompt = none) _ _ ht.2.2 (or_comm.1 (h hreport)))

/-- The runs of a client: its calls, one after the other, and what others do. -/
abbrev Runs (enterable : TurnProg Unit → Prop) (m : Monitor TurnOp TurnAns TurnError TurnShared) : Prop :=
  Relation.ReflTransGen (Monitor.Step execTurn enterable Outside Allowed) ⟨.ready, none⟩ m

/-- **Main result.** When a turn was reported not to be started, or completed, the client is at its end or ready for another
one, in every run whose calls are clear. -/
theorem reports_restored {m : Monitor TurnOp TurnAns TurnError TurnShared} {report : Report}
    (hrun : Runs (fun p => ∃ call : TurnCall adapter, call.Clear ∧ p = call.program) m) (hreport : m.state.report = some report) :
    Restored m.state := by
  have hprogram : ∀ p, (∃ call : TurnCall adapter, call.Clear ∧ p = call.program) → ∀ s, Sound s → AtRest adapter s →
      p.SafeIf execTurn Allowed Frame Sound (fun _ => AtRest adapter) s := by
    rintro p ⟨call, hclear, rfl⟩ s hi hs
    refine ((program_spec hclear).safe s hi hs).weaken fun r t _ ht => ?_
    cases r with
    | ok => exact ht
    | error e => exact ht
  have hsound := (Monitor.reachable frame_refl frame_trans
    (fun _ _ ht hs => ⟨sound_frame (outside_frame ht) hs, outside_frame ht⟩) (fun _ _ ht _ hs => hs.frame ht) hprogram
    (sound_of_report rfl) ⟨fun _ => rfl, Or.inl (Or.inl ⟨rfl, rfl⟩)⟩ hrun).1
  exact hsound (by rw [hreport]; exact Option.some_ne_none _)

/-! ## A response without the identifier of the turn -/

def samplePipe : Pipe := ⟨true, true⟩

/-- The provider answers `turn/start` with this. -/
def sampleStart (answer : String × Value) : CodexStart where
  threadId := "thread-1"
  prompt := "list the files"
  model := none
  reasoningEffort := none
  request := {
    id := 1
    message := .null
    pipe := samplePipe
    inbox := .new 512 (8 * 1024 * 1024)
    arrivals := [⟨.message 1 (.object [answer, ("id", .ofU64 1)]), ⟨.busy, true, true⟩⟩]
    ending := .deadline }

/-- The provider reports an error: the start fails, and the client is ready. -/
theorem reports_restored_error :
    Restored ((TurnCall.codexStart (sampleStart ("error", .null))).program.run execTurn .ready).1 := by
  have hclear : (TurnCall.codexStart (sampleStart ("error", .null))).Clear := by
    refine ⟨fun response hresponse => ?_, trivial⟩
    have herror : (sampleStart ("error", .null)).request.reply .codex = .error (.remote 1 .null) := rfl
    rw [herror] at hresponse
    cases hresponse
  have hrun : Runs (fun p => ∃ call : TurnCall .codex, call.Clear ∧ p = call.program)
      ⟨((TurnCall.codexStart (sampleStart ("error", .null))).program.run execTurn .ready).1, none⟩ :=
    Monitor.reaches_run ⟨_, hclear, rfl⟩ (by decide)
  exact @reports_restored .codex _ .startFailed hrun (by decide)

/-- The response is empty: the start fails, and the process stays busy. -/
theorem empty_response_leaves_busy :
    ¬∀ (adapter : Adapter) (m : Monitor TurnOp TurnAns TurnError TurnShared) (report : Report),
      Runs (fun p => ∃ call : TurnCall adapter, p = call.program) m → m.state.report = some report → Restored m.state := by
  intro hclaim
  have hrun : Runs (fun p => ∃ call : TurnCall .codex, p = call.program)
      ⟨((TurnCall.codexStart (sampleStart ("result", .object []))).program.run execTurn .ready).1, none⟩ :=
    Monitor.reaches_run ⟨_, rfl⟩ (by decide)
  have hrestored := hclaim .codex _ .startFailed hrun (by decide)
  revert hrestored
  decide

end HyperTerm.Drivers.Turns
