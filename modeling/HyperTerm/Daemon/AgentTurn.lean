import HyperTerm.Drivers.AcpRequests
import HyperTerm.Lib.Saturating
import HyperTerm.Lib.Text

/-!
# One turn of an Agent

A worker takes the events of a turn one after the other, and journals what they say. The texts of the Agent come in pieces,
which it holds back until there is enough of them, or something else comes.

* `continueTurn` : one round of the loop, with what it leaves of the worker and what it journals;
* `TurnRun` : the rounds of all the workers of a turn, which ends the one or waits for a decision and goes on in another;
* `acceptedText`, `journaledText` : the texts of a phase as they came, and as they are in the journal;
* `Roomy` : no text comes that is too much while another is held back;
* `texts_journaled` : then all texts are in the journal when a worker stops or waits, and before whatever came after them.
-/

namespace HyperTerm.Daemon.AgentTurn
open HyperTerm.Protocol HyperTerm.Drivers HyperTerm.Lib

def minJournaledAgentChunkBytes : Nat := 128

def maxAgentMessageBytes : Nat := 256 * 1024

def maxAgentTerminals : Nat := 64

/-- The greatest `u32`. -/
def maxPhase : Nat := 4294967295

structure AgentTurnProjection where
  turnId : String
  userBlockId : BlockId
  userMessageId : Option String
  userMessagePhase : Nat
  userMessageBytes : Nat
  agentBlockId : BlockId
  agentMessagePhase : Nat
  planBlockId : BlockId
  agentMessageBytes : Nat
  agentMessageBuffer : String
  agentMessageInterrupted : Bool
  planBytes : Nat

/-- The projection that `run_turn` begins with. -/
def AgentTurnProjection.start (turnId : String) (userBlockId agentBlockId planBlockId : BlockId) : AgentTurnProjection :=
  ⟨turnId, userBlockId, none, 0, 0, agentBlockId, 0, planBlockId, 0, "", false, 0⟩

inductive AgentDriverEvent where
  | userMessageDelta (threadId turnId : String) (messageId : Option String) (text : String)
  | messageDelta (threadId turnId text : String)
  | planDelta (threadId turnId text : String)
  | planUpdated (threadId turnId : String) (entries : List AgentPlanEntry)
  | toolCallUpdated (threadId turnId : String) (call : AgentToolCall)
  | thoughtDelta (threadId turnId text : String)
  | effectProposed (proposal : AgentEffectProposal)
  | hostRequest (request : AgentHostRequest)
  | turnCompleted (threadId : String) (turnId status : Option String)
  | exited
  | other

/-- What the worker waits for: that its time is over, or `next_event`. -/
inductive Arrival where
  | elapsed
  | error (summary : String)
  | event (event : AgentDriverEvent)

/-- The slot of the pending effect. -/
inductive Slot where
  | poisoned
  | occupied
  | free

/-- What the others answer in one round: whether the text is journaled, whether what the event says is, what is in the slot,
how many terminals there are, whether the provider takes the answer, and the next new block. -/
structure Answers where
  textJournaled : Bool
  journaled : Bool
  slot : Slot
  terminals : Option Nat
  resolved : Bool
  blockId : BlockId

inductive TurnProgress where
  | completed
  | failed (summary : String)

inductive Worker where
  | running (projection : AgentTurnProjection)
  /-- The projection is in the pending effect. -/
  | waiting (projection : AgentTurnProjection)
  | stopped (progress : TurnProgress)

def Worker.projection? : Worker → Option AgentTurnProjection
  | .running projection | .waiting projection => some projection
  | .stopped _ => none

/-- What has come of a turn: a text of the Agent was accepted in a phase, or something was journaled. -/
inductive TurnRecord where
  | accepted (phase : Nat) (text : String)
  | message (blockId : BlockId) (role : MessageRole) (externalMessageId : Option String) (text : String)
  | plan (entries : List AgentPlanEntry)
  | toolCall (call : AgentToolCall)
  | effect (proposal : AgentEffectProposal)
  | terminal (request : AgentHostRequest)

/-! ## A round -/

def messageId (turnId : String) (phase : Nat) : String := turnId ++ "-message-" ++ toString phase

/-- What `flush_agent_message` leaves, what it journals, and whether it could. -/
def flushAgentMessage (p : AgentTurnProjection) (textJournaled : Bool) : AgentTurnProjection × List TurnRecord × Bool :=
  if p.agentMessageBuffer = "" then (p, [], true)
  else
    ({ p with agentMessageBuffer := "" },
      if textJournaled then
        [.message p.agentBlockId .agent (some (messageId p.turnId p.agentMessagePhase)) p.agentMessageBuffer]
      else [],
      textJournaled)

def AgentTurnProjection.interrupt (p : AgentTurnProjection) : AgentTurnProjection :=
  { p with agentMessageInterrupted := p.agentMessageInterrupted || 0 < p.agentMessageBytes }

def failed (summary : String) : Worker × List TurnRecord := (.stopped (.failed summary), [])

/-- The event is of this turn. -/
def current (sessionThread : String) (p : AgentTurnProjection) (threadId turnId : String) : Prop :=
  threadId = sessionThread ∧ turnId = p.turnId

instance (sessionThread : String) (p : AgentTurnProjection) (threadId turnId : String) :
    Decidable (current sessionThread p threadId turnId) := inferInstanceAs (Decidable (_ ∧ _))

def userMessage (p : AgentTurnProjection) (id : Option String) (text : String) (a : Answers) : Worker × List TurnRecord :=
  if text = "" then (.running p, [])
  else
    let p := p.interrupt
    let p :=
      if 0 < p.userMessageBytes ∧ id ≠ p.userMessageId then
        { p with userMessagePhase := satAdd maxPhase p.userMessagePhase 1, userBlockId := a.blockId }
      else p
    if maxAgentMessageBytes < p.userMessageBytes + text.utf8ByteSize then
      failed "Agent user-message replay exceeded its 256 KiB bound"
    else
      let p := { p with userMessageBytes := p.userMessageBytes + text.utf8ByteSize, userMessageId := id }
      if a.journaled then
        (.running p, [.message p.userBlockId .user
          (id.or (some (p.turnId ++ "-user-message-" ++ toString p.userMessagePhase))) text])
      else failed "Agent user message could not be journaled"

/-- A text after an interruption begins a phase. -/
def AgentTurnProjection.nextPhase (p : AgentTurnProjection) (blockId : BlockId) : AgentTurnProjection :=
  if p.agentMessageInterrupted = true ∧ 0 < p.agentMessageBytes then
    { p with agentMessagePhase := satAdd maxPhase p.agentMessagePhase 1, agentBlockId := blockId }
  else p

/-- The text is accepted: it is held back, and flushed with the others once there is enough of it. -/
def acceptText (p : AgentTurnProjection) (text : String) (textJournaled : Bool) : Worker × List TurnRecord :=
  let p := { p with
    agentMessageBytes := p.agentMessageBytes + text.utf8ByteSize
    agentMessageBuffer := p.agentMessageBuffer ++ text }
  if minJournaledAgentChunkBytes ≤ p.agentMessageBuffer.utf8ByteSize then
    match flushAgentMessage p textJournaled with
    | (p, records, true) =>
        (.running { p with agentMessageInterrupted := false }, .accepted p.agentMessagePhase text :: records)
    | (p, records, false) =>
        (.stopped (.failed "Agent response could not be journaled"), .accepted p.agentMessagePhase text :: records)
  else (.running { p with agentMessageInterrupted := false }, [.accepted p.agentMessagePhase text])

def agentMessage (p : AgentTurnProjection) (text : String) (a : Answers) : Worker × List TurnRecord :=
  if text = "" then (.running p, [])
  else if maxAgentMessageBytes < p.agentMessageBytes + text.utf8ByteSize then
    failed "Agent response exceeded its 256 KiB bound"
  else acceptText (p.nextPhase a.blockId) text a.textJournaled

/-- A piece of a plan or of a thought. What is too much is left out, and what cannot be journaled is too. -/
def thought (p : AgentTurnProjection) (text : String) (a : Answers) : Worker × List TurnRecord :=
  let p := p.interrupt
  if text = "" ∨ maxAgentMessageBytes < p.planBytes + text.utf8ByteSize then (.running p, [])
  else
    (.running { p with planBytes := p.planBytes + text.utf8ByteSize },
      if a.journaled then [.message p.planBlockId .thought (some p.turnId) text] else [])

/-- The projection goes into the slot, and the worker ends. -/
def retain (p : AgentTurnProjection) (record : TurnRecord) (unretained overlapping : String) : Slot → Worker × List TurnRecord
  | .poisoned => (.stopped (.failed unretained), [record])
  | .occupied => (.stopped (.failed overlapping), [record])
  | .free => (.waiting p, [record])

def effectProposed (p : AgentTurnProjection) (proposal : AgentEffectProposal) (a : Answers) : Worker × List TurnRecord :=
  if a.journaled then
    retain p.interrupt (.effect proposal) "Agent effect proposal could not be retained"
      "Agent emitted overlapping effect proposals" a.slot
  else failed "Agent effect proposal could not be journaled"

def hostRequest (p : AgentTurnProjection) (request : AgentHostRequest) (a : Answers) : Worker × List TurnRecord :=
  match request.operation with
  | .terminalCreate _ _ _ _ _ =>
      match a.terminals with
      | none => failed "ACP terminal state could not be read"
      | some count =>
          if maxAgentTerminals ≤ count then
            if a.resolved then (.running p.interrupt, []) else failed "ACP terminal rejection could not be returned"
          else if a.journaled then
            retain p.interrupt (.terminal request) "ACP terminal request could not be retained"
              "Agent emitted overlapping host requests" a.slot
          else failed "ACP terminal request could not be journaled"
  | _ => if a.resolved then (.running p.interrupt, []) else failed "ACP terminal response could not be returned"

/-- What is done about an event. -/
def handleEvent (sessionThread : String) (p : AgentTurnProjection) (event : AgentDriverEvent) (a : Answers) :
    Worker × List TurnRecord :=
  match event with
  | .userMessageDelta threadId turnId id text =>
      if current sessionThread p threadId turnId then userMessage p id text a else (.running p, [])
  | .messageDelta threadId turnId text =>
      if current sessionThread p threadId turnId then agentMessage p text a else (.running p, [])
  | .planDelta threadId turnId text | .thoughtDelta threadId turnId text =>
      if current sessionThread p threadId turnId then thought p text a else (.running p, [])
  | .planUpdated threadId turnId entries =>
      if current sessionThread p threadId turnId then
        if a.journaled then (.running p.interrupt, [.plan entries]) else failed "Agent plan could not be journaled"
      else (.running p, [])
  | .toolCallUpdated threadId turnId call =>
      if current sessionThread p threadId turnId then
        if a.journaled then (.running p.interrupt, [.toolCall call]) else failed "Agent tool call could not be journaled"
      else (.running p, [])
  | .effectProposed proposal => effectProposed p proposal a
  | .hostRequest request =>
      if current sessionThread p request.threadId request.turnId then hostRequest p request a else (.running p, [])
  | .turnCompleted threadId turnId status =>
      if threadId = sessionThread ∧ ∀ id ∈ turnId, id = p.turnId then
        if status = some "failed" then failed "Agent reported a failed turn" else (.stopped .completed, [])
      else (.running p, [])
  | .exited => failed "Agent exited before the turn completed"
  | .other => (.running p, [])

def isCurrentAgentDelta (sessionThread : String) (p : AgentTurnProjection) : AgentDriverEvent → Bool
  | .messageDelta threadId turnId _ => current sessionThread p threadId turnId
  | _ => false

/-- A round of the loop of `continue_turn`. -/
def continueTurn (sessionThread : String) (p : AgentTurnProjection) (arrival : Arrival) (a : Answers) :
    Worker × List TurnRecord :=
  match arrival with
  | .elapsed =>
      (.stopped (.failed "Agent turn exceeded its five-minute bound"), (flushAgentMessage p a.textJournaled).2.1)
  | .error summary => (.stopped (.failed summary), (flushAgentMessage p a.textJournaled).2.1)
  | .event event =>
      if isCurrentAgentDelta sessionThread p event then handleEvent sessionThread p event a
      else
        match flushAgentMessage p a.textJournaled with
        | (_, records, false) => (.stopped (.failed "Agent response could not be journaled"), records)
        | (p, records, true) =>
            ((handleEvent sessionThread p event a).1, records ++ (handleEvent sessionThread p event a).2)

/-! ## The rounds of a turn -/

/-- The worker of a turn with what has come of it. -/
structure TurnRun where
  worker : Worker
  records : List TurnRecord

inductive TurnInput where
  | round (arrival : Arrival) (answers : Answers)
  /-- The effect is decided, and another worker goes on with the projection. -/
  | resumed
  /-- The effect is taken out of the slot, and no worker goes on. -/
  | dropped (summary : String)

def TurnRun.step (sessionThread : String) (run : TurnRun) : TurnInput → TurnRun
  | .round arrival a =>
      match run.worker with
      | .running p =>
          ⟨(continueTurn sessionThread p arrival a).1, run.records ++ (continueTurn sessionThread p arrival a).2⟩
      | _ => run
  | .resumed =>
      match run.worker with
      | .waiting p => ⟨.running p, run.records⟩
      | _ => run
  | .dropped summary =>
      match run.worker with
      | .waiting _ => ⟨.stopped (.failed summary), run.records⟩
      | _ => run

/-- The turns that begin with a projection, all of whose steps meet a condition. -/
inductive Reached (sessionThread : String) (start : AgentTurnProjection) (condition : TurnRun → TurnInput → Prop) :
    TurnRun → Prop where
  | start : Reached sessionThread start condition ⟨.running start, []⟩
  | step {run : TurnRun} {input : TurnInput} (before : Reached sessionThread start condition run)
      (meets : condition run input) : Reached sessionThread start condition (run.step sessionThread input)

/-! ## The texts of a phase -/

def TurnRecord.acceptedIn (phase : Nat) : TurnRecord → Option String
  | .accepted phase' text => if phase' = phase then some text else none
  | _ => none

def TurnRecord.journaledIn (turnId : String) (phase : Nat) : TurnRecord → Option String
  | .message _ .agent externalMessageId text =>
      if externalMessageId = some (messageId turnId phase) then some text else none
  | _ => none

/-- The texts that were accepted in the phase. -/
def acceptedText (phase : Nat) (records : List TurnRecord) : String :=
  String.join (records.filterMap (TurnRecord.acceptedIn phase))

/-- The texts of the Agent that were journaled for the phase. -/
def journaledText (turnId : String) (phase : Nat) (records : List TurnRecord) : String :=
  String.join (records.filterMap (TurnRecord.journaledIn turnId phase))

/-- The texts that were accepted are in the journal, those of each phase in their order. -/
def Settled (turnId : String) (records : List TurnRecord) : Prop :=
  ∀ phase, journaledText turnId phase records = acceptedText phase records

/-- What was journaled is not a text of the Agent. -/
def TurnRecord.IsEvent : TurnRecord → Prop
  | .accepted _ _ => False
  | .message _ role _ _ => role ≠ .agent
  | _ => True

/-- What the worker holds back of the phase. -/
def heldBack (phase : Nat) : Worker → String
  | .running p => if phase = p.agentMessagePhase then p.agentMessageBuffer else ""
  | _ => ""

theorem acceptedText_append (phase : Nat) (records more : List TurnRecord) :
    acceptedText phase (records ++ more) = acceptedText phase records ++ acceptedText phase more := by
  unfold acceptedText
  rw [List.filterMap_append, String.join_append]

theorem journaledText_append (turnId : String) (phase : Nat) (records more : List TurnRecord) :
    journaledText turnId phase (records ++ more) =
      journaledText turnId phase records ++ journaledText turnId phase more := by
  unfold journaledText
  rw [List.filterMap_append, String.join_append]

theorem messageId_inj {turnId : String} {phase phase' : Nat} :
    messageId turnId phase = messageId turnId phase' ↔ phase = phase' := by
  refine ⟨fun h => repr_injective ((String.append_right_inj _).mp h), ?_⟩
  rintro rfl
  rfl

theorem acceptedText_accepted (phase phase' : Nat) (text : String) :
    acceptedText phase [.accepted phase' text] = if phase = phase' then text else "" := by
  show String.join (List.filterMap _ [_]) = _
  rw [List.filterMap_cons, List.filterMap_nil, TurnRecord.acceptedIn]
  by_cases h : phase = phase'
  · rw [if_pos h.symm, if_pos h]
    exact (String.join_cons).trans String.append_empty
  · rw [if_neg (Ne.symm h), if_neg h]
    rfl

theorem journaledText_message (turnId : String) (phase phase' : Nat) (blockId : BlockId) (text : String) :
    journaledText turnId phase [.message blockId .agent (some (messageId turnId phase')) text] =
      if phase = phase' then text else "" := by
  show String.join (List.filterMap _ [_]) = _
  rw [List.filterMap_cons, List.filterMap_nil, TurnRecord.journaledIn]
  by_cases h : phase = phase'
  · rw [if_pos (by rw [h]), if_pos h]
    exact (String.join_cons).trans String.append_empty
  · rw [if_neg (fun heq => h (messageId_inj.1 (Option.some.inj heq)).symm), if_neg h]
    rfl

theorem TurnRecord.IsEvent.texts {r : TurnRecord} (h : r.IsEvent) (turnId : String) (phase : Nat) :
    acceptedText phase [r] = "" ∧ journaledText turnId phase [r] = "" := by
  cases r with
  | accepted phase' text => exact h.elim
  | message blockId role externalMessageId text =>
      cases role with
      | agent => exact absurd rfl h
      | user | system | thought => exact ⟨rfl, rfl⟩
  | plan entries => exact ⟨rfl, rfl⟩
  | toolCall call => exact ⟨rfl, rfl⟩
  | effect proposal => exact ⟨rfl, rfl⟩
  | terminal request => exact ⟨rfl, rfl⟩

/-! ## Events that are no texts -/

/-- At most one event is journaled, and the projection goes on with the same texts held back. -/
structure Quiet (p : AgentTurnProjection) (result : Worker × List TurnRecord) : Prop where
  records : result.2 = [] ∨ ∃ r, r.IsEvent ∧ result.2 = [r]
  kept : ∀ p', result.1.projection? = some p' → p'.turnId = p.turnId ∧ p'.agentMessageBuffer = p.agentMessageBuffer

theorem quiet_failed (p : AgentTurnProjection) (summary : String) : Quiet p (failed summary) where
  records := Or.inl rfl
  kept p' h := by cases h

theorem quiet_running {p p' : AgentTurnProjection} (hturn : p'.turnId = p.turnId)
    (hbuffer : p'.agentMessageBuffer = p.agentMessageBuffer) : Quiet p (.running p', []) where
  records := Or.inl rfl
  kept p'' h := by
    cases h
    exact ⟨hturn, hbuffer⟩

theorem quiet_event {p p' : AgentTurnProjection} {r : TurnRecord} (hr : r.IsEvent) (hturn : p'.turnId = p.turnId)
    (hbuffer : p'.agentMessageBuffer = p.agentMessageBuffer) : Quiet p (.running p', [r]) where
  records := Or.inr ⟨r, hr, rfl⟩
  kept p'' h := by
    cases h
    exact ⟨hturn, hbuffer⟩

theorem quiet_retain {p : AgentTurnProjection} {r : TurnRecord} (hr : r.IsEvent) (unretained overlapping : String)
    (slot : Slot) : Quiet p (retain p.interrupt r unretained overlapping slot) where
  records := Or.inr ⟨r, hr, by cases slot <;> rfl⟩
  kept p' h := by
    cases slot with
    | poisoned => cases h
    | occupied => cases h
    | free =>
        cases h
        exact ⟨rfl, rfl⟩

theorem quiet_userMessage (p : AgentTurnProjection) (id : Option String) (text : String) (a : Answers) :
    Quiet p (userMessage p id text a) := by
  unfold userMessage
  dsimp only
  by_cases htext : text = ""
  · rw [if_pos htext]
    exact quiet_running rfl rfl
  rw [if_neg htext]
  split_ifs
  all_goals first
    | exact quiet_failed p _
    | exact quiet_event (fun h => by cases h) rfl rfl

theorem quiet_thought (p : AgentTurnProjection) (text : String) (a : Answers) : Quiet p (thought p text a) := by
  unfold thought
  dsimp only
  split_ifs
  · exact quiet_running rfl rfl
  · exact quiet_event (fun h => by cases h) rfl rfl
  · exact quiet_running rfl rfl

theorem quiet_hostRequest (p : AgentTurnProjection) (request : AgentHostRequest) (a : Answers) :
    Quiet p (hostRequest p request a) := by
  have hanswer : ∀ summary, Quiet p (if a.resolved then (.running p.interrupt, []) else failed summary) := by
    intro summary
    split_ifs
    · exact quiet_running rfl rfl
    · exact quiet_failed p summary
  unfold hostRequest
  cases request.operation with
  | terminalCreate command args env cwd limit =>
      dsimp only
      cases a.terminals with
      | none => exact quiet_failed p _
      | some count =>
          dsimp only
          by_cases hcount : maxAgentTerminals ≤ count
          · rw [if_pos hcount]
            exact hanswer _
          rw [if_neg hcount]
          split_ifs
          · refine quiet_retain ?_ _ _ _
            trivial
          · exact quiet_failed p _
  | terminalOutput id => exact hanswer _
  | terminalRelease id => exact hanswer _
  | terminalWaitForExit id => exact hanswer _
  | terminalKill id => exact hanswer _

/-- Whatever is not a text of the turn is quiet. -/
theorem quiet_handleEvent {sessionThread : String} {p : AgentTurnProjection} {event : AgentDriverEvent} (a : Answers)
    (h : isCurrentAgentDelta sessionThread p event = false) : Quiet p (handleEvent sessionThread p event a) := by
  have hidle : Quiet p (.running p, []) := quiet_running rfl rfl
  cases event with
  | messageDelta threadId turnId text =>
      unfold handleEvent
      dsimp only
      rw [if_neg (of_decide_eq_false h)]
      exact hidle
  | userMessageDelta threadId turnId id text =>
      unfold handleEvent
      dsimp only
      split_ifs
      · exact quiet_userMessage p id text a
      · exact hidle
  | planDelta threadId turnId text =>
      unfold handleEvent
      dsimp only
      split_ifs
      · exact quiet_thought p text a
      · exact hidle
  | thoughtDelta threadId turnId text =>
      unfold handleEvent
      dsimp only
      split_ifs
      · exact quiet_thought p text a
      · exact hidle
  | planUpdated threadId turnId entries =>
      unfold handleEvent
      dsimp only
      split_ifs
      · exact quiet_event trivial rfl rfl
      · exact quiet_failed p _
      · exact hidle
  | toolCallUpdated threadId turnId call =>
      unfold handleEvent
      dsimp only
      split_ifs
      · exact quiet_event trivial rfl rfl
      · exact quiet_failed p _
      · exact hidle
  | effectProposed proposal =>
      show Quiet p (effectProposed p proposal a)
      unfold effectProposed
      split_ifs
      · refine quiet_retain ?_ _ _ _
        trivial
      · exact quiet_failed p _
  | hostRequest request =>
      unfold handleEvent
      dsimp only
      split_ifs
      · exact quiet_hostRequest p request a
      · exact hidle
  | turnCompleted threadId turnId status =>
      unfold handleEvent
      dsimp only
      split_ifs
      · exact quiet_failed p _
      · exact ⟨Or.inl rfl, fun p' h => by cases h⟩
      · exact hidle
  | exited => exact quiet_failed p _
  | other => exact hidle

/-! ## What is held back -/

/-- What is accepted is in the journal but for what is held back, nothing is held back after an interruption nor while the
turn waits, and everything that came before an event was journaled before it. -/
structure Held (turnId : String) (run : TurnRun) : Prop where
  texts : ∀ phase, acceptedText phase run.records = journaledText turnId phase run.records ++ heldBack phase run.worker
  turn : ∀ p, run.worker.projection? = some p → p.turnId = turnId
  interrupted : ∀ p, run.worker.projection? = some p → p.agentMessageInterrupted = true → p.agentMessageBuffer = ""
  waiting : ∀ p, run.worker = .waiting p → p.agentMessageBuffer = ""
  ordered : ∀ before r after, run.records = before ++ r :: after → r.IsEvent → Settled turnId before

theorem held_start (p : AgentTurnProjection) (hbuffer : p.agentMessageBuffer = "") : Held p.turnId ⟨.running p, []⟩ where
  texts phase := by
    show "" = "" ++ heldBack phase (.running p)
    rw [heldBack, hbuffer, ite_self]
    rfl
  turn p' h := by
    cases h
    rfl
  interrupted p' h _ := by
    cases h
    exact hbuffer
  waiting p' h := by cases h
  ordered before r after h := by cases before <;> cases h

/-- The order is kept by a text, and by an event that comes when the texts are settled. -/
theorem ordered_concat {turnId : String} {records : List TurnRecord} {r : TurnRecord}
    (h : ∀ before r after, records = before ++ r :: after → r.IsEvent → Settled turnId before)
    (hr : r.IsEvent → Settled turnId records) :
    ∀ before r' after, records ++ [r] = before ++ r' :: after → r'.IsEvent → Settled turnId before := by
  intro before r' after heq hevent
  rcases List.eq_nil_or_concat' after with rfl | ⟨after, last, rfl⟩
  · obtain ⟨rfl, hlast⟩ := List.append_inj' heq rfl
    cases hlast
    exact hr hevent
  · have hassoc : before ++ r' :: (after ++ [last]) = (before ++ r' :: after) ++ [last] := by
      rw [List.append_assoc, List.cons_append]
    rw [hassoc] at heq
    obtain ⟨rfl, -⟩ := List.append_inj' heq rfl
    exact h before r' after rfl hevent

theorem settled_event {turnId : String} {records : List TurnRecord} {r : TurnRecord} (h : Settled turnId records)
    (hr : r.IsEvent) : Settled turnId (records ++ [r]) := by
  intro phase
  obtain ⟨haccepted, hjournaled⟩ := hr.texts turnId phase
  rw [journaledText_append, acceptedText_append, haccepted, hjournaled, h phase]

/-- What is quiet is held, once nothing is held back. -/
theorem held_of_quiet {turnId : String} {records : List TurnRecord} {p : AgentTurnProjection}
    {result : Worker × List TurnRecord} (hquiet : Quiet p result) (hbuffer : p.agentMessageBuffer = "")
    (hturn : p.turnId = turnId) (hsettled : Settled turnId records)
    (hordered : ∀ before r after, records = before ++ r :: after → r.IsEvent → Settled turnId before) :
    Held turnId ⟨result.1, records ++ result.2⟩ := by
  have hempty : ∀ p', result.1.projection? = some p' → p'.agentMessageBuffer = "" := fun p' h =>
    (hquiet.kept p' h).2.trans hbuffer
  have hheld : ∀ phase, heldBack phase result.1 = "" := by
    intro phase
    cases hworker : result.1 with
    | running p' =>
        rw [hworker] at hempty
        rw [heldBack, hempty p' rfl, ite_self]
    | waiting p' => rfl
    | stopped progress => rfl
  have hafter : Settled turnId (records ++ result.2) ∧
      ∀ before r after, records ++ result.2 = before ++ r :: after → r.IsEvent → Settled turnId before := by
    rcases hquiet.records with hnil | ⟨r, hr, hone⟩
    · rw [hnil, List.append_nil]
      exact ⟨hsettled, hordered⟩
    · rw [hone]
      exact ⟨settled_event hsettled hr, ordered_concat hordered fun _ => hsettled⟩
  refine ⟨?_, ?_, ?_, ?_, hafter.2⟩
  · intro phase
    show acceptedText phase _ = journaledText turnId phase _ ++ heldBack phase result.1
    rw [hheld, String.append_empty]
    exact (hafter.1 phase).symm
  · intro p' h
    exact (hquiet.kept p' h).1.trans hturn
  · intro p' h _
    exact hempty p' h
  · intro p' h
    refine hempty p' ?_
    rw [show result.1 = .waiting p' from h]
    rfl

/-! ## Texts -/

theorem nextPhase_fields (p : AgentTurnProjection) (blockId : BlockId) :
    (p.nextPhase blockId).turnId = p.turnId ∧ (p.nextPhase blockId).agentMessageBuffer = p.agentMessageBuffer := by
  unfold AgentTurnProjection.nextPhase
  split_ifs
  · exact ⟨rfl, rfl⟩
  · exact ⟨rfl, rfl⟩

/-- A phase is begun only where nothing is held back of the one before. -/
theorem heldBack_nextPhase {p : AgentTurnProjection} (h : p.agentMessageInterrupted = true → p.agentMessageBuffer = "")
    (blockId : BlockId) (phase : Nat) : heldBack phase (.running (p.nextPhase blockId)) = heldBack phase (.running p) := by
  unfold AgentTurnProjection.nextPhase
  split_ifs with hnext
  · have hbuffer := h hnext.1
    unfold heldBack
    dsimp only
    rw [hbuffer, ite_self, ite_self]
  · rfl

/-- A text that is accepted is held back after those that are, or is in the journal with them. -/
theorem held_acceptText {turnId : String} {records : List TurnRecord} {p : AgentTurnProjection} (text : String)
    (hturn : p.turnId = turnId)
    (htexts : ∀ phase, acceptedText phase records = journaledText turnId phase records ++ heldBack phase (.running p))
    (hordered : ∀ before r after, records = before ++ r :: after → r.IsEvent → Settled turnId before) :
    Held turnId ⟨(acceptText p text true).1, records ++ (acceptText p text true).2⟩ := by
  subst hturn
  -- The text is accepted, and follows what is held back of its phase.
  have haccepted : ∀ phase, acceptedText phase (records ++ [.accepted p.agentMessagePhase text]) =
      journaledText p.turnId phase records ++ if phase = p.agentMessagePhase then p.agentMessageBuffer ++ text else "" := by
    intro phase
    rw [acceptedText_append, htexts, acceptedText_accepted, String.append_assoc, heldBack]
    by_cases hphase : phase = p.agentMessagePhase
    · rw [if_pos hphase, if_pos hphase, if_pos hphase]
    · rw [if_neg hphase, if_neg hphase, if_neg hphase, String.append_empty]
  have hjournaled : ∀ phase, journaledText p.turnId phase (records ++ [.accepted p.agentMessagePhase text]) =
      journaledText p.turnId phase records := by
    intro phase
    rw [journaledText_append]
    exact String.append_empty
  have horder : ∀ before r after, records ++ [.accepted p.agentMessagePhase text] = before ++ r :: after → r.IsEvent →
      Settled p.turnId before := ordered_concat hordered fun h => h.elim
  unfold acceptText
  dsimp only
  by_cases hsize : minJournaledAgentChunkBytes ≤ (p.agentMessageBuffer ++ text).utf8ByteSize
  · have hbuffer : p.agentMessageBuffer ++ text ≠ "" := by
      intro hempty
      rw [hempty] at hsize
      exact absurd hsize (by decide)
    rw [if_pos hsize]
    unfold flushAgentMessage
    dsimp only
    rw [if_neg hbuffer, if_pos rfl]
    dsimp only
    have hsplit : ∀ r : TurnRecord, records ++ [.accepted p.agentMessagePhase text, r] =
        records ++ [.accepted p.agentMessagePhase text] ++ [r] := by
      intro r
      rw [List.append_assoc]
      rfl
    refine ⟨?_, ?_, ?_, ?_, ?_⟩
    · intro phase
      dsimp only
      rw [hsplit, acceptedText_append, haccepted, journaledText_append, hjournaled, journaledText_message, heldBack, ite_self,
        String.append_empty]
      exact String.append_empty
    · intro p' h
      cases h
      rfl
    · intro p' h _
      cases h
      rfl
    · intro p' h
      cases h
    · dsimp only
      rw [hsplit]
      exact ordered_concat horder fun h => absurd rfl h
  · rw [if_neg hsize]
    refine ⟨?_, ?_, ?_, ?_, horder⟩
    · intro phase
      dsimp only
      rw [haccepted, hjournaled, heldBack]
    · intro p' h
      cases h
      rfl
    · intro p' h hinterrupted
      cases h
      cases hinterrupted
    · intro p' h
      cases h

/-! ## The turns in which there is room -/

/-- A text of the turn comes that is too much. -/
def TooMuch (sessionThread : String) (p : AgentTurnProjection) : Arrival → Prop
  | .event (.messageDelta threadId turnId text) =>
      current sessionThread p threadId turnId ∧ maxAgentMessageBytes < p.agentMessageBytes + text.utf8ByteSize
  | _ => False

/-- The journal takes the texts of the Agent. -/
def TurnInput.TextJournaled : TurnInput → Prop
  | .round _ a => a.textJournaled = true
  | _ => True

/-- The journal takes the texts, and where one comes that is too much, none is held back. -/
def Roomy (sessionThread : String) (run : TurnRun) (input : TurnInput) : Prop :=
  input.TextJournaled ∧ ∀ p arrival a, run.worker = .running p → input = .round arrival a →
    TooMuch sessionThread p arrival → p.agentMessageBuffer = ""

/-- The texts that are held back are in the journal after they are flushed. -/
theorem held_flush {turnId : String} {p : AgentTurnProjection} {records : List TurnRecord}
    (h : Held turnId ⟨.running p, records⟩) :
    (flushAgentMessage p true).1.agentMessageBuffer = "" ∧ (flushAgentMessage p true).1.turnId = turnId ∧
      (flushAgentMessage p true).2.2 = true ∧ Settled turnId (records ++ (flushAgentMessage p true).2.1) ∧
      ∀ before r after, records ++ (flushAgentMessage p true).2.1 = before ++ r :: after → r.IsEvent →
        Settled turnId before := by
  obtain rfl := h.turn p rfl
  have htexts : ∀ phase, acceptedText phase records = journaledText p.turnId phase records ++ heldBack phase (.running p) :=
    h.texts
  unfold flushAgentMessage
  by_cases hbuffer : p.agentMessageBuffer = ""
  · rw [if_pos hbuffer]
    refine ⟨hbuffer, rfl, rfl, ?_, ?_⟩
    · intro phase
      rw [List.append_nil, htexts, heldBack, hbuffer, ite_self, String.append_empty]
    · rw [List.append_nil]
      exact h.ordered
  · rw [if_neg hbuffer, if_pos rfl]
    refine ⟨rfl, rfl, rfl, ?_, ?_⟩
    · intro phase
      rw [journaledText_append, acceptedText_append, htexts, journaledText_message, heldBack]
      exact String.append_empty.symm
    · exact ordered_concat h.ordered fun h => absurd rfl h

/-- What stops the worker once nothing is held back. -/
theorem held_stopped {turnId : String} {records : List TurnRecord} (progress : TurnProgress)
    (hsettled : Settled turnId records)
    (hordered : ∀ before r after, records = before ++ r :: after → r.IsEvent → Settled turnId before) :
    Held turnId ⟨.stopped progress, records⟩ where
  texts phase := (hsettled phase).symm.trans String.append_empty.symm
  turn p h := by cases h
  interrupted p h := by cases h
  waiting p h := by cases h
  ordered := hordered

theorem held_agentMessage {turnId : String} {p : AgentTurnProjection} {records : List TurnRecord} {text : String} {a : Answers}
    (h : Held turnId ⟨.running p, records⟩) (hjournaled : a.textJournaled = true)
    (hroom : maxAgentMessageBytes < p.agentMessageBytes + text.utf8ByteSize → p.agentMessageBuffer = "") :
    Held turnId ⟨(agentMessage p text a).1, records ++ (agentMessage p text a).2⟩ := by
  unfold agentMessage
  by_cases htext : text = ""
  · rw [if_pos htext, List.append_nil]
    exact h
  rw [if_neg htext]
  by_cases hmuch : maxAgentMessageBytes < p.agentMessageBytes + text.utf8ByteSize
  · rw [if_pos hmuch]
    refine held_of_quiet (quiet_failed p _) (hroom hmuch) (h.turn p rfl) ?_ h.ordered
    intro phase
    have htexts : acceptedText phase records = journaledText turnId phase records ++ heldBack phase (.running p) :=
      h.texts phase
    rw [htexts, heldBack, hroom hmuch, ite_self, String.append_empty]
  · rw [if_neg hmuch, hjournaled]
    refine held_acceptText text ((nextPhase_fields p a.blockId).1.trans (h.turn p rfl)) ?_ h.ordered
    intro phase
    rw [heldBack_nextPhase (h.interrupted p rfl)]
    exact h.texts phase

theorem held_continueTurn {sessionThread turnId : String} {p : AgentTurnProjection} {records : List TurnRecord}
    {arrival : Arrival} {a : Answers} (h : Held turnId ⟨.running p, records⟩) (hjournaled : a.textJournaled = true)
    (hroom : TooMuch sessionThread p arrival → p.agentMessageBuffer = "") :
    Held turnId ⟨(continueTurn sessionThread p arrival a).1, records ++ (continueTurn sessionThread p arrival a).2⟩ := by
  obtain ⟨hbuffer, hturn, hflushed, hsettled, hordered⟩ := held_flush h
  unfold continueTurn
  rw [hjournaled]
  cases arrival with
  | elapsed => exact held_stopped _ hsettled hordered
  | error summary => exact held_stopped _ hsettled hordered
  | event event =>
      dsimp only
      cases hdelta : isCurrentAgentDelta sessionThread p event with
      | true =>
          rw [if_pos rfl]
          cases event with
          | messageDelta threadId turnId' text =>
              have hcurrent : current sessionThread p threadId turnId' := of_decide_eq_true hdelta
              unfold handleEvent
              dsimp only
              rw [if_pos hcurrent]
              exact held_agentMessage h hjournaled fun hmuch => hroom ⟨hcurrent, hmuch⟩
          | _ => cases hdelta
      | false =>
          rw [if_neg Bool.false_ne_true]
          -- The event is handled after the flush, with what it leaves of the projection.
          have hsame : isCurrentAgentDelta sessionThread (flushAgentMessage p true).1 event = false := by
            have hid : (flushAgentMessage p true).1.turnId = p.turnId := hturn.trans (h.turn p rfl).symm
            cases event with
            | messageDelta threadId turnId' text =>
                exact decide_eq_false fun hcurrent =>
                  of_decide_eq_false hdelta ⟨hcurrent.1, hcurrent.2.trans hid⟩
            | _ => rfl
          have hquiet := quiet_handleEvent a hsame
          revert hbuffer hturn hflushed hsettled hordered hquiet
          rcases flushAgentMessage p true with ⟨p', flushed, ok⟩
          dsimp only
          intro hbuffer hturn hflushed hsettled hordered hquiet
          subst hflushed
          dsimp only
          rw [← List.append_assoc]
          exact held_of_quiet hquiet hbuffer hturn hsettled hordered

theorem held_step {sessionThread turnId : String} {run : TurnRun} {input : TurnInput} (h : Held turnId run)
    (hroomy : Roomy sessionThread run input) : Held turnId (run.step sessionThread input) := by
  rcases run with ⟨worker, records⟩
  cases worker with
  | running p =>
      cases input with
      | round arrival a => exact held_continueTurn h hroomy.1 (hroomy.2 p arrival a rfl rfl)
      | resumed => exact h
      | dropped summary => exact h
  | waiting p =>
      have hsettled : Settled turnId records := fun phase => ((h.texts phase).trans String.append_empty).symm
      cases input with
      | round arrival a => exact h
      | resumed =>
          refine ⟨?_, h.turn, h.interrupted, ?_, h.ordered⟩
          · intro phase
            show acceptedText phase records = _ ++ heldBack phase (.running p)
            rw [heldBack, h.waiting p rfl, ite_self, String.append_empty]
            exact (hsettled phase).symm
          · intro p' hp
            cases hp
      | dropped summary => exact held_stopped _ hsettled h.ordered
  | stopped progress =>
      cases input with
      | round arrival a => exact h
      | resumed => exact h
      | dropped summary => exact h

theorem held_of_reached {sessionThread : String} {start : AgentTurnProjection} {run : TurnRun}
    (hstart : start.agentMessageBuffer = "") (h : Reached sessionThread start (Roomy sessionThread) run) :
    Held start.turnId run := by
  induction h with
  | start => exact held_start start hstart
  | step before meets ih => exact held_step ih meets

/-- **All texts are in the journal, in their order.** In a turn in which there is room, every text that was accepted is in
the journal when a worker stops or waits, and the texts that came before an event are in it before the event. -/
theorem texts_journaled {sessionThread turnId : String} {userBlockId agentBlockId planBlockId : BlockId} {run : TurnRun}
    (h : Reached sessionThread (.start turnId userBlockId agentBlockId planBlockId) (Roomy sessionThread) run) :
    ((∀ p, run.worker ≠ .running p) → Settled turnId run.records) ∧
    (∀ p, run.worker = .running p → ∀ phase, acceptedText phase run.records = journaledText turnId phase run.records ++
      if phase = p.agentMessagePhase then p.agentMessageBuffer else "") ∧
    ∀ before r after, run.records = before ++ r :: after → r.IsEvent → Settled turnId before := by
  have hheld : Held turnId run := held_of_reached rfl h
  refine ⟨?_, ?_, hheld.ordered⟩
  · intro hstopped phase
    have htexts := hheld.texts phase
    cases hworker : run.worker with
    | running p => exact absurd hworker (hstopped p)
    | waiting p =>
        rw [hworker] at htexts
        exact (htexts.trans String.append_empty).symm
    | stopped progress =>
        rw [hworker] at htexts
        exact (htexts.trans String.append_empty).symm
  · intro p hworker phase
    have htexts := hheld.texts phase
    rw [hworker] at htexts
    exact htexts

/-- What is too much stops the worker, and what it holds back is not in the journal. -/
theorem continueTurn_tooMuch {sessionThread : String} {p : AgentTurnProjection} {arrival : Arrival} {a : Answers}
    (hbytes : p.agentMessageBytes ≤ maxAgentMessageBytes) (h : TooMuch sessionThread p arrival) :
    continueTurn sessionThread p arrival a = failed "Agent response exceeded its 256 KiB bound" := by
  cases arrival with
  | elapsed => exact h.elim
  | error summary => exact h.elim
  | event event =>
      cases event with
      | messageDelta threadId turnId text =>
          obtain ⟨hcurrent, hmuch⟩ := h
          have htext : text ≠ "" := by
            rintro rfl
            exact absurd hmuch (Nat.not_lt.2 hbytes)
          have hdelta : isCurrentAgentDelta sessionThread p (.messageDelta threadId turnId text) = true :=
            decide_eq_true hcurrent
          unfold continueTurn handleEvent agentMessage
          dsimp only
          rw [if_pos hdelta, if_pos hcurrent, if_neg htext, if_pos hmuch]
      | _ => exact h.elim

/-! ## Examples -/

def agreeing : Answers := ⟨true, true, .free, some 0, true, ⟨⟨0⟩⟩⟩

def startRun : TurnRun := ⟨.running (.start "turn" ⟨⟨0⟩⟩ ⟨⟨0⟩⟩ ⟨⟨0⟩⟩), []⟩

def textArrives (text : String) : TurnInput := .round (.event (.messageDelta "thread" "turn" text)) agreeing

/-- A short text is held back. -/
theorem step_short : ∃ p, (startRun.step "thread" (textArrives "a")).worker = .running p ∧ p.turnId = "turn" ∧
    p.agentMessageBytes = 1 ∧ p.agentMessageBuffer = "a" ∧
    (startRun.step "thread" (textArrives "a")).records = [.accepted 0 "a"] :=
  ⟨_, rfl, rfl, rfl, rfl, rfl⟩

theorem texts_journaled_elapsed :
    Settled "turn" ((startRun.step "thread" (textArrives "a")).step "thread" (.round .elapsed agreeing)).records := by
  have hreached : Reached "thread" (.start "turn" ⟨⟨0⟩⟩ ⟨⟨0⟩⟩ ⟨⟨0⟩⟩) (Roomy "thread")
      ((startRun.step "thread" (textArrives "a")).step "thread" (.round .elapsed agreeing)) := by
    refine .step (.step .start ⟨rfl, ?_⟩) ⟨rfl, ?_⟩
    · intro p arrival a hp _ _
      cases hp
      rfl
    · intro p arrival a _ harrival hmuch
      cases harrival
      exact hmuch.elim
  exact (texts_journaled hreached).1 fun p hp => by cases hp

/-- A text that is held back is lost with the next, which is too much. -/
theorem text_lost_at_bound :
    ∃ run, Reached "thread" (.start "turn" ⟨⟨0⟩⟩ ⟨⟨0⟩⟩ ⟨⟨0⟩⟩) (fun _ input => input.TextJournaled) run ∧
      (∀ p, run.worker ≠ .running p) ∧ ¬Settled "turn" run.records := by
  obtain ⟨long, hlong⟩ : ∃ long : String, long.utf8ByteSize = maxAgentMessageBytes :=
    ⟨_, (utf8ByteSize_replicate maxAgentMessageBytes 'a').trans (Nat.mul_one _)⟩
  obtain ⟨p, hworker, hturn, hbytes, -, hrecords⟩ := step_short
  have hmuch : TooMuch "thread" p (.event (.messageDelta "thread" "turn" long)) := by
    refine ⟨⟨rfl, hturn.symm⟩, ?_⟩
    rw [hbytes, hlong]
    exact Nat.lt_add_of_pos_left Nat.one_pos
  have hstep : (startRun.step "thread" (textArrives "a")).step "thread" (textArrives long) =
      ⟨.stopped (.failed "Agent response exceeded its 256 KiB bound"), [.accepted 0 "a"]⟩ := by
    unfold textArrives at hworker hrecords ⊢
    rw [TurnRun.step, hworker]
    dsimp only
    rw [continueTurn_tooMuch (by rw [hbytes]; decide) hmuch, hrecords]
    rfl
  refine ⟨_, @Reached.step _ _ _ _ (textArrives long) (@Reached.step _ _ _ _ (textArrives "a") .start rfl) rfl, ?_⟩
  rw [show TurnRun.step "thread" ⟨.running _, []⟩ (textArrives "a") = startRun.step "thread" (textArrives "a") from rfl, hstep]
  refine ⟨fun p hp => (by cases hp), fun hsettled => ?_⟩
  have htext : journaledText "turn" 0 [.accepted 0 "a"] = acceptedText 0 [.accepted 0 "a"] := hsettled 0
  exact absurd htext (by decide)

end HyperTerm.Daemon.AgentTurn
