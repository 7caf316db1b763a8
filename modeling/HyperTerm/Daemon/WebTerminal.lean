import HyperTerm.Core.Terminal
import HyperTerm.Daemon.WebGateway

/-!
# One connection of the web terminal

Output goes from the replay buffer through the queue of the connection's subscription, a pump and the queue of the
socket to the browser. The buffer drops a subscription whose queue is full.

* `WebConnection.step` : the terminal publishes, the pump, the writer and the reader of the connection take their
  steps, and other subscribers of the same terminal come, receive and go, in any order;
* `Registered` : a connection that is open gets the terminal's output;
* `connection_registered` : this holds as long as nothing is published to a connection that is 256 events behind.
-/

namespace HyperTerm.Daemon
open HyperTerm.Protocol HyperTerm.Core

/-! ## Messages -/

def terminalWebProtocolVersion : Nat := 3

def outboundQueueMessages : Nat := 256

inductive TerminalWebServerControl where
  | ready (protocolVersion : Nat) (attachmentId : TerminalAttachmentId) (terminalId : TerminalId)
      (nextInputSequence resizeGeneration metadataRevision : Nat)
  | exited (exitCode : Option Nat) (signal : Option String)
  | error (code message : String)
  deriving DecidableEq

inductive TerminalWebBinaryFrame where
  | output (sequence : Nat) (bytes : List UInt8)
  | snapshot (baseSequence nextSequence totalBytes : Nat) (bytes : List UInt8)
  deriving DecidableEq

inductive Outbound where
  | binary (frame : TerminalWebBinaryFrame)
  | control (control : TerminalWebServerControl)
  | finish
  deriving DecidableEq

def readyMessage (active : ActiveAttachment) : Outbound :=
  .control (.ready terminalWebProtocolVersion active.attachmentId active.terminalId active.nextInputSequence
    active.resizeGeneration active.metadataRevision)

/-- What `send_replay` sends. -/
def replayMessages : TerminalReplay → List Outbound
  | .chunks chunks => chunks.map fun chunk => .binary (.output chunk.sequence chunk.bytes)
  | .snapshotRequired s => [.binary (.snapshot s.baseSequence s.nextSequence s.totalBytes s.tail)]

/-- What the pump makes of an event. -/
def relayed : TerminalEvent → List Outbound
  | .output chunk => [.binary (.output chunk.sequence chunk.bytes)]
  | .exited exit => [.control (.exited exit.exitCode exit.signal), .finish]
  | .fault message => [.control (.error "terminal_fault" message)]

/-! ## The connection -/

/-- `greeting` holds what is still to be sent before the socket is split, and the exit that the subscription found. -/
inductive ConnectionPhase where
  | connecting
  | greeting (unsent : List Outbound) (exit : Option TerminalExit)
  | streaming
  | closing
  | detached
  deriving DecidableEq

inductive Pump where
  | unspawned
  | checking
  | receiving
  | relaying (event : TerminalEvent) (unsent : List Outbound)
  | stopped
  deriving DecidableEq

inductive SocketWriter where
  | receiving
  | sending (message : Outbound)
  | closing
  deriving DecidableEq

inductive SocketReader where
  | waiting
  | sending (unsent : List Outbound)
  deriving DecidableEq

/-- `subscription` names the connection's channel of the replay buffer; `outbound` is the queue of the socket. -/
structure WebConnection where
  buffer : TerminalReplayBuffer
  subscription : Nat
  active : ActiveAttachment
  phase : ConnectionPhase
  pump : Pump
  outbound : List Outbound
  writer : SocketWriter
  reader : SocketReader
  cancel : Bool

/-- What the browser sends: a message that is handled, a close, or the end of the connection. -/
inductive Received where
  | message (handled : Except TerminalWebServerControl Unit)
  | close (closed : Except TerminalRequestError Unit)
  | gone

inductive WebEvent where
  | publishOutput (bytes : List UInt8)
  | publishExit (exit : TerminalExit)
  | publishFault (message : String)
  | otherSubscribes (id afterSequence : Nat)
  | otherReceives (id : Nat)
  | otherDrops (id : Nat)
  | connects (afterSequence : Nat)
  | greets (sent : Bool)
  | pumpChecks
  | pumpReceives
  | pumpTimesOut
  | pumpSends
  | writerReceives
  | writerSends (sent : Bool)
  | writerCloses
  | readerReceives (received : Received)
  | readerSends
  | deactivates

namespace WebConnection

/-- A connection to a new terminal. -/
def start (terminalId : TerminalId) (replayBytes transcriptTailBytes subscription : Nat) (active : ActiveAttachment) :
    WebConnection where
  buffer := .new terminalId replayBytes transcriptTailBytes
  subscription := subscription
  active := active
  phase := .connecting
  pump := .unspawned
  outbound := []
  writer := .receiving
  reader := .waiting
  cancel := false

/-- The queue of the connection's subscription. -/
def channel (c : WebConnection) : Channel := c.buffer.channels c.subscription

def setChannel (c : WebConnection) (channel : Channel) : WebConnection :=
  { c with buffer := { c.buffer with channels := Function.update c.buffer.channels c.subscription channel } }

def stopPump (c : WebConnection) : WebConnection := { c.setChannel ⟨[], false⟩ with pump := .stopped }

/-- One side of the socket is done: the other is dropped, and the pump is told to stop. -/
def finishSelect (c : WebConnection) : WebConnection :=
  { c with phase := .closing, outbound := [], cancel := true }

/-- After one message of an event the pump sends the next, takes another event, or ends with the exit. -/
def continuePump (c : WebConnection) (event : TerminalEvent) (unsent : List Outbound) : WebConnection :=
  match unsent, event with
  | [], .exited _ => c.stopPump
  | [], _ => { c with pump := .checking }
  | _ :: _, _ => { c with pump := .relaying event unsent }

/-- A refused output ends the pump, other refused messages do not. -/
def pumpSends (c : WebConnection) (event : TerminalEvent) (message : Outbound) (unsent : List Outbound) :
    Option WebConnection :=
  if c.phase = .streaming then
    if c.outbound.length < outboundQueueMessages then
      some (({ c with outbound := c.outbound ++ [message] } : WebConnection).continuePump event unsent)
    else none
  else
    match event with
    | .output _ => some c.stopPump
    | _ => some (c.continuePump event unsent)

def step (c : WebConnection) : WebEvent → Option WebConnection
  | .publishOutput bytes => some { c with buffer := c.buffer.publishOutput bytes }
  | .publishExit exit => some { c with buffer := c.buffer.publishExit exit }
  | .publishFault message => some { c with buffer := c.buffer.publishFault message }
  | .otherSubscribes id afterSequence =>
      if id = c.subscription then none else some { c with buffer := (c.buffer.subscribe id afterSequence).1 }
  | .otherReceives id =>
      if id = c.subscription then none
      else
        let channel := c.buffer.channels id
        some { c with buffer := { c.buffer with
          channels := Function.update c.buffer.channels id { channel with queue := channel.queue.tail } } }
  | .otherDrops id =>
      if id = c.subscription then none
      else some { c with buffer := { c.buffer with channels := Function.update c.buffer.channels id ⟨[], false⟩ } }
  | .connects afterSequence =>
      if c.phase = .connecting then
        let (buffer, replay, exit) := c.buffer.subscribe c.subscription afterSequence
        some { c with buffer, phase := .greeting (readyMessage c.active :: replayMessages replay) exit }
      else none
  | .greets sent =>
      match c.phase with
      | .greeting (_ :: unsent) exit =>
          if sent then some { c with phase := .greeting unsent exit }
          else some { c.setChannel ⟨[], false⟩ with phase := .detached }
      | .greeting [] (some _) => some { c.setChannel ⟨[], false⟩ with phase := .detached }
      | .greeting [] none => some { c with phase := .streaming, pump := .checking }
      | _ => none
  | .pumpChecks =>
      if c.pump = .checking then if c.cancel then some c.stopPump else some { c with pump := .receiving } else none
  | .pumpReceives =>
      if c.pump = .receiving then
        match c.channel.queue with
        | event :: queue => some { c.setChannel ⟨queue, true⟩ with pump := .relaying event (relayed event) }
        | [] => if c.subscription ∈ c.buffer.subscribers then none else some c.stopPump
      else none
  | .pumpTimesOut =>
      if c.pump = .receiving ∧ c.channel.queue = [] ∧ c.subscription ∈ c.buffer.subscribers then
        some { c with pump := .checking }
      else none
  | .pumpSends =>
      match c.pump with
      | .relaying event (message :: unsent) => c.pumpSends event message unsent
      | _ => none
  | .writerReceives =>
      if c.phase = .streaming ∧ c.writer = .receiving then
        match c.outbound with
        | [] => none
        | .finish :: outbound => some { c with outbound, writer := .closing }
        | message :: outbound => some { c with outbound, writer := .sending message }
      else none
  | .writerSends sent =>
      match c.phase, c.writer with
      | .streaming, .sending _ => some { c with writer := if sent then .receiving else .closing }
      | _, _ => none
  | .writerCloses => if c.phase = .streaming ∧ c.writer = .closing then some c.finishSelect else none
  | .readerReceives received =>
      if c.phase = .streaming ∧ c.reader = .waiting then
        match received with
        | .message (.ok ()) => some c
        | .message (.error control) => some { c with reader := .sending [.control control, .finish] }
        | .close (.ok ()) => some { c with reader := .sending [.finish] }
        | .close (.error _) | .gone => some c.finishSelect
      else none
  | .readerSends =>
      match c.phase, c.reader with
      | .streaming, .sending (message :: unsent) =>
          if c.outbound.length < outboundQueueMessages then
            if unsent = [] then some c.finishSelect
            else some { c with outbound := c.outbound ++ [message], reader := .sending unsent }
          else none
      | _, _ => none
  | .deactivates =>
      if c.phase = .closing ∧ c.pump = .stopped then some { c with phase := .detached } else none

/-- The socket is there for the attachment. -/
def attached (c : WebConnection) : Bool :=
  match c.phase with
  | .greeting _ _ | .streaming => true
  | .connecting | .closing | .detached => false

end WebConnection

abbrev WebRun (allowed : WebEvent → WebConnection → Prop) : WebConnection → WebConnection → Prop :=
  Relation.ReflTransGen fun c c' => ∃ event, allowed event c ∧ c.step event = some c'

/-- A connection that is attached to a running terminal, with no end on the way, is subscribed to the output. -/
def Registered (c : WebConnection) : Prop :=
  c.attached = true → c.buffer.exit = none → .finish ∉ c.outbound → c.subscription ∈ c.buffer.subscribers

/-- What a running terminal publishes finds room in the queue of an attached connection. -/
def FindsRoom : WebEvent → WebConnection → Prop
  | .publishOutput _, c | .publishFault _, c =>
      c.attached = true → c.buffer.exit = none → c.channel.queue.length < subscriberQueueChunks
  | _, _ => True

/-! ## The invariant of a connection -/

namespace WebConnection

@[simp] theorem setChannel_exit (c : WebConnection) (channel : Channel) :
    (c.setChannel channel).buffer.exit = c.buffer.exit := rfl

@[simp] theorem setChannel_subscribers (c : WebConnection) (channel : Channel) :
    (c.setChannel channel).buffer.subscribers = c.buffer.subscribers := rfl

@[simp] theorem channel_setChannel (c : WebConnection) (channel : Channel) :
    (c.setChannel channel).channel = channel := Function.update_self ..

/-- The socket is gone. -/
def Over (c : WebConnection) : Prop := c.phase = .closing ∨ c.phase = .detached

theorem Over.not_attached {c : WebConnection} (h : c.Over) : c.attached = false := by
  unfold attached
  rcases h with h | h <;> rw [h]

/-- What keeps the subscription: only a pump that relays the exit stops while the connection is attached. -/
structure Served (c : WebConnection) : Prop where
  registered : c.attached = true → c.buffer.exit = none →
    c.subscription ∈ c.buffer.subscribers ∧ c.channel.receiver = true
  queued : ∀ exit, .exited exit ∈ c.channel.queue → c.buffer.exit ≠ none
  relaying : ∀ exit unsent, c.pump = .relaying (.exited exit) unsent → c.buffer.exit ≠ none
  cancelled : c.cancel = true → c.Over
  spawned : c.pump ≠ .unspawned → c.phase = .streaming ∨ c.Over

theorem served_start (terminalId : TerminalId) (replayBytes transcriptTailBytes subscription : Nat)
    (active : ActiveAttachment) : Served (start terminalId replayBytes transcriptTailBytes subscription active) := by
  constructor
  · exact fun h => nomatch h
  · exact fun exit h => nomatch h
  · exact fun exit unsent h => nomatch h
  · exact fun h => nomatch h
  · exact fun h => absurd rfl h

/-- A change of the buffer that keeps the exit and the connection's own subscription. -/
theorem Served.withBuffer {c : WebConnection} (h : Served c) {buffer : TerminalReplayBuffer}
    (hexit : buffer.exit = none → c.buffer.exit = none)
    (hregistered : c.attached = true → buffer.exit = none → c.subscription ∈ c.buffer.subscribers →
      c.channel.receiver = true → c.subscription ∈ buffer.subscribers)
    (hreceiver : (buffer.channels c.subscription).receiver = c.channel.receiver)
    (hqueue : ∀ exit, .exited exit ∈ (buffer.channels c.subscription).queue →
      .exited exit ∈ c.channel.queue ∨ buffer.exit ≠ none) :
    Served { c with buffer := buffer } where
  registered := fun hattached hnone => by
    obtain ⟨hmem, hopen⟩ := h.registered hattached (hexit hnone)
    exact ⟨hregistered hattached hnone hmem hopen, hreceiver.trans hopen⟩
  queued := fun exit hmem => (hqueue exit hmem).elim (fun hold hnone => h.queued exit hold (hexit hnone)) id
  relaying := fun exit unsent hpump hnone => h.relaying exit unsent hpump (hexit hnone)
  cancelled := h.cancelled
  spawned := h.spawned

/-- A published event that finds room. -/
theorem Served.publish {c : WebConnection} (h : Served c) {before : TerminalReplayBuffer} (event : TerminalEvent)
    (hsubscribers : before.subscribers = c.buffer.subscribers) (hchannels : before.channels = c.buffer.channels)
    (hexit : before.exit = none → c.buffer.exit = none)
    (hevent : ∀ exit, event = .exited exit → before.exit ≠ none)
    (hroom : c.attached = true → before.exit = none → c.channel.queue.length < subscriberQueueChunks) :
    Served { c with buffer := before.publish event } := by
  have hchannel : before.channels c.subscription = c.channel := congrFun hchannels _
  refine h.withBuffer hexit (fun hattached hnone hmem hopen => ?_) ?_ fun exit hmem => ?_
  · refine TerminalReplayBuffer.mem_subscribers_publish (hsubscribers ▸ hmem) ?_
    rw [hchannel]
    simp only [TerminalReplayBuffer.accepts, hopen, Bool.true_and, decide_eq_true_eq]
    exact hroom hattached hnone
  · rw [TerminalReplayBuffer.publish_receiver, hchannel]
  · rcases TerminalReplayBuffer.mem_queue_publish hmem with hnew | hold
    · exact Or.inr (hevent exit hnew.symm)
    · exact Or.inl (hchannel ▸ hold)

/-- Other subscribers do not touch the connection's channel. -/
theorem Served.updateOther {c : WebConnection} (h : Served c) {id : Nat} (hid : id ≠ c.subscription) (channel : Channel) :
    Served { c with buffer := { c.buffer with channels := Function.update c.buffer.channels id channel } } := by
  have hown : Function.update c.buffer.channels id channel c.subscription = c.channel :=
    Function.update_of_ne (Ne.symm hid) ..
  exact h.withBuffer (fun hnone => hnone) (fun _ _ hmem _ => hmem) (congrArg Channel.receiver hown)
    fun exit hmem => Or.inl (hown ▸ hmem)

/-- A connection that is over needs no subscription. -/
theorem Served.of_over {c c' : WebConnection} (h : Served c) (hbuffer : c'.buffer.exit = c.buffer.exit)
    (hqueue : ∀ e ∈ c'.channel.queue, e ∈ c.channel.queue) (hover : c'.Over)
    (hpump : ∀ exit unsent, c'.pump = .relaying (.exited exit) unsent → c'.buffer.exit ≠ none) : Served c' where
  registered := fun h => absurd (hover.not_attached.symm.trans h) Bool.false_ne_true
  queued := fun exit hmem => hbuffer ▸ h.queued exit (hqueue _ hmem)
  relaying := hpump
  cancelled := fun _ => hover
  spawned := fun _ => Or.inr hover

/-- The pump may stop once the terminal has exited or the connection is detached. -/
theorem Served.stopPump {c : WebConnection} (h : Served c) (hspawned : c.pump ≠ .unspawned)
    (hdone : c.attached = true → c.buffer.exit ≠ none) : Served c.stopPump where
  registered := fun hattached hnone => absurd hnone (hdone hattached)
  queued := fun exit hmem => by
    rw [show c.stopPump.channel = ⟨[], false⟩ from channel_setChannel c _] at hmem
    exact absurd hmem List.not_mem_nil
  relaying := fun exit unsent hpump => nomatch hpump
  cancelled := h.cancelled
  spawned := fun _ => h.spawned hspawned

theorem Served.finishSelect {c : WebConnection} (h : Served c) : Served c.finishSelect :=
  h.of_over rfl (fun _ hmem => hmem) (Or.inl rfl) h.relaying

theorem Served.setPump {c : WebConnection} (h : Served c) (hspawned : c.pump ≠ .unspawned) {pump : Pump}
    (hpump : ∀ exit unsent, pump = .relaying (.exited exit) unsent → c.buffer.exit ≠ none) :
    Served { c with pump := pump } := ⟨h.registered, h.queued, hpump, h.cancelled, fun _ => h.spawned hspawned⟩

/-- The other parts of a connection do not matter. -/
theorem Served.setSocket {c : WebConnection} (h : Served c) (outbound : List Outbound) (writer : SocketWriter)
    (reader : SocketReader) : Served { c with outbound := outbound, writer := writer, reader := reader } :=
  ⟨h.registered, h.queued, h.relaying, h.cancelled, h.spawned⟩

theorem Served.connects {c : WebConnection} (h : Served c) (hphase : c.phase = .connecting) (afterSequence : Nat)
    (unsent : List Outbound) (exit : Option TerminalExit) :
    Served { c with
      buffer := (c.buffer.subscribe c.subscription afterSequence).1
      phase := .greeting unsent exit } := by
  have hover : ¬c.Over := by rintro (h | h) <;> exact nomatch hphase.symm.trans h
  have hqueue : (c.buffer.subscribe c.subscription afterSequence).1.channels c.subscription = ⟨[], true⟩ := if_pos rfl
  refine ⟨fun _ hnone => ⟨?_, congrArg Channel.receiver hqueue⟩, fun exit hmem => ?_, h.relaying, fun hcancel => ?_,
    fun hpump => ?_⟩
  · have hexit : c.buffer.exit = none := hnone
    simp [TerminalReplayBuffer.subscribe, hexit]
  · have hmem' : TerminalEvent.exited exit ∈
        ((c.buffer.subscribe c.subscription afterSequence).1.channels c.subscription).queue := hmem
    rw [hqueue] at hmem'
    exact absurd hmem' List.not_mem_nil
  · exact absurd (h.cancelled hcancel) hover
  · rcases h.spawned hpump with hstreaming | hdone
    · exact nomatch hphase.symm.trans hstreaming
    · exact absurd hdone hover

theorem Served.greets {c c' : WebConnection} (h : Served c) {sent : Bool} (hstep : c.step (.greets sent) = some c') :
    Served c' := by
  have hdetach : Served { c.setChannel ⟨[], false⟩ with phase := .detached } :=
    h.of_over rfl (fun e hmem => absurd (channel_setChannel c ⟨[], false⟩ ▸ hmem) List.not_mem_nil) (Or.inr rfl)
      h.relaying
  simp only [step] at hstep
  split at hstep
  case h_1 message unsent exit hphase =>
    have hover : ¬c.Over := by rintro (h | h) <;> exact nomatch hphase.symm.trans h
    cases sent with
    | true =>
        obtain rfl := Option.some.inj hstep
        have hattached : c.attached = true := by unfold attached; rw [hphase]
        refine ⟨fun _ => h.registered hattached, h.queued, h.relaying, fun hcancel => absurd (h.cancelled hcancel) hover,
          fun hpump => ?_⟩
        rcases h.spawned hpump with hstreaming | hdone
        · exact nomatch hphase.symm.trans hstreaming
        · exact absurd hdone hover
    | false =>
        obtain rfl := Option.some.inj hstep
        exact hdetach
  case h_2 exit hphase =>
    obtain rfl := Option.some.inj hstep
    exact hdetach
  case h_3 hphase =>
    have hover : ¬c.Over := by rintro (h | h) <;> exact nomatch hphase.symm.trans h
    have hattached : c.attached = true := by unfold attached; rw [hphase]
    obtain rfl := Option.some.inj hstep
    exact ⟨fun _ => h.registered hattached, h.queued, fun _ _ hpump => (by cases hpump),
      fun hcancel => absurd (h.cancelled hcancel) hover, fun _ => Or.inl rfl⟩
  case h_4 => cases hstep

theorem Served.continuePump {c : WebConnection} (h : Served c) {event : TerminalEvent} {message : Outbound}
    {unsent : List Outbound} (hpump : c.pump = .relaying event (message :: unsent)) :
    Served (c.continuePump event unsent) := by
  have hspawned : c.pump ≠ .unspawned := fun hne => by
    rw [hpump] at hne
    cases hne
  unfold WebConnection.continuePump
  split
  case h_1 exit => exact h.stopPump hspawned fun _ => h.relaying _ _ hpump
  case h_2 => exact h.setPump hspawned fun _ _ heq => by cases heq
  case h_3 =>
    refine h.setPump hspawned fun exit unsent' heq => ?_
    obtain ⟨rfl, -⟩ := Pump.relaying.inj heq
    exact h.relaying _ _ hpump

/-- The pump's sends: it stops after the exit, or when the socket is gone. -/
theorem Served.pumpSends {c c' : WebConnection} (h : Served c) {event : TerminalEvent} {message : Outbound}
    {unsent : List Outbound} (hpump : c.pump = .relaying event (message :: unsent))
    (hstep : c.pumpSends event message unsent = some c') : Served c' := by
  have hspawned : c.pump ≠ .unspawned := fun hne => by
    rw [hpump] at hne
    cases hne
  unfold WebConnection.pumpSends at hstep
  by_cases hphase : c.phase = .streaming
  · rw [if_pos hphase] at hstep
    by_cases hroom : c.outbound.length < outboundQueueMessages
    · rw [if_pos hroom] at hstep
      obtain rfl := Option.some.inj hstep
      exact (h.setSocket (c.outbound ++ [message]) c.writer c.reader).continuePump hpump
    · rw [if_neg hroom] at hstep
      cases hstep
  · have hover : c.Over := (h.spawned hspawned).resolve_left hphase
    simp only [hphase, if_false] at hstep
    cases event with
    | output chunk =>
        obtain rfl := Option.some.inj hstep
        exact h.stopPump hspawned fun hattached => absurd (hover.not_attached.symm.trans hattached) Bool.false_ne_true
    | exited exit =>
        obtain rfl := Option.some.inj hstep
        exact h.continuePump hpump
    | fault message =>
        obtain rfl := Option.some.inj hstep
        exact h.continuePump hpump

/-- The pump takes an event, or learns that there is no sender. -/
theorem Served.pumpReceives {c c' : WebConnection} (h : Served c) (hpump : c.pump = .receiving)
    (hstep : c.step .pumpReceives = some c') : Served c' := by
  have hspawned : c.pump ≠ .unspawned := fun hne => by
    rw [hpump] at hne
    cases hne
  simp only [step, hpump, if_true] at hstep
  cases hqueue : c.channel.queue with
  | nil =>
      rw [hqueue] at hstep
      by_cases hmem : c.subscription ∈ c.buffer.subscribers
      · simp only [hmem, if_true] at hstep
        cases hstep
      · simp only [hmem, if_false, Option.some.injEq] at hstep
        subst hstep
        exact h.stopPump hspawned fun hattached hnone => hmem (h.registered hattached hnone).1
  | cons event queue =>
      rw [hqueue] at hstep
      simp only [Option.some.injEq] at hstep
      subst hstep
      have hchannel := channel_setChannel c ⟨queue, true⟩
      refine ⟨fun hattached hnone => ⟨(h.registered hattached hnone).1, ?_⟩, fun exit hmem => ?_,
        fun exit unsent heq => ?_, h.cancelled, fun _ => h.spawned hspawned⟩
      · exact congrArg Channel.receiver hchannel
      · have hmem' : TerminalEvent.exited exit ∈ (c.setChannel ⟨queue, true⟩).channel.queue := hmem
        rw [hchannel] at hmem'
        exact h.queued exit (hqueue ▸ List.mem_cons_of_mem event hmem')
      · obtain ⟨rfl, -⟩ := Pump.relaying.inj heq
        exact h.queued exit (hqueue ▸ List.mem_cons_self)

/-- **What one step preserves.** -/
theorem Served.step {c c' : WebConnection} (h : Served c) {event : WebEvent} (hroom : FindsRoom event c)
    (hstep : c.step event = some c') : Served c' := by
  cases event with
  | publishOutput bytes =>
      obtain rfl := Option.some.inj hstep
      exact h.publish _ rfl rfl (fun hnone => hnone) (fun exit heq => by cases heq) hroom
  | publishFault message =>
      obtain rfl := Option.some.inj hstep
      exact h.publish _ rfl rfl (fun hnone => hnone) (fun exit heq => by cases heq) hroom
  | publishExit exit =>
      obtain rfl := Option.some.inj hstep
      unfold TerminalReplayBuffer.publishExit
      by_cases hexit : c.buffer.exit.isSome = true
      · simp only [hexit, if_true]
        exact h
      · simp only [hexit]
        refine h.publish _ rfl rfl (fun hnone => ?_) (fun _ _ hnone => ?_) (fun _ hnone => ?_) <;> cases hnone
  | otherSubscribes id afterSequence =>
      simp only [WebConnection.step] at hstep
      split_ifs at hstep with hid
      obtain rfl := Option.some.inj hstep
      have hown : (c.buffer.subscribe id afterSequence).1.channels c.subscription = c.channel := if_neg (Ne.symm hid)
      refine h.withBuffer (fun hnone => hnone) (fun _ hnone hmem _ => ?_) (congrArg Channel.receiver hown)
        fun exit hmem => Or.inl (hown ▸ hmem)
      have hexit : c.buffer.exit = none := hnone
      simp [TerminalReplayBuffer.subscribe, hexit, hmem]
  | otherReceives id =>
      simp only [WebConnection.step] at hstep
      split_ifs at hstep with hid
      exact Option.some.inj hstep ▸ h.updateOther hid _
  | otherDrops id =>
      simp only [WebConnection.step] at hstep
      split_ifs at hstep with hid
      exact Option.some.inj hstep ▸ h.updateOther hid _
  | connects afterSequence =>
      simp only [WebConnection.step] at hstep
      split_ifs at hstep with hphase
      obtain rfl := Option.some.inj hstep
      exact h.connects hphase afterSequence _ _
  | greets sent => exact h.greets hstep
  | pumpChecks =>
      simp only [WebConnection.step] at hstep
      split_ifs at hstep with hpump hcancel
      all_goals
        have hspawned : c.pump ≠ .unspawned := fun hne => by
          rw [hpump] at hne
          cases hne
        obtain rfl := Option.some.inj hstep
      · exact h.stopPump hspawned fun hattached =>
          absurd ((h.cancelled hcancel).not_attached.symm.trans hattached) Bool.false_ne_true
      · exact h.setPump hspawned fun _ _ heq => by cases heq
  | pumpReceives =>
      by_cases hpump : c.pump = .receiving
      · exact h.pumpReceives hpump hstep
      · simp only [WebConnection.step, hpump, if_false] at hstep
        cases hstep
  | pumpTimesOut =>
      simp only [WebConnection.step] at hstep
      split_ifs at hstep with hpump
      obtain rfl := Option.some.inj hstep
      refine h.setPump (fun hne => ?_) fun _ _ heq => by cases heq
      rw [hpump.1] at hne
      cases hne
  | pumpSends =>
      simp only [WebConnection.step] at hstep
      split at hstep
      case h_1 hpump => exact h.pumpSends hpump hstep
      case h_2 => cases hstep
  | writerReceives =>
      simp only [WebConnection.step] at hstep
      split_ifs at hstep
      split at hstep
      case h_1 => cases hstep
      case h_2 => exact Option.some.inj hstep ▸ h.setSocket _ _ _
      case h_3 => exact Option.some.inj hstep ▸ h.setSocket _ _ _
  | writerSends sent =>
      simp only [WebConnection.step] at hstep
      split at hstep
      case h_1 => exact Option.some.inj hstep ▸ h.setSocket _ _ _
      case h_2 => cases hstep
  | writerCloses =>
      simp only [WebConnection.step] at hstep
      split_ifs at hstep
      exact Option.some.inj hstep ▸ h.finishSelect
  | readerReceives received =>
      simp only [WebConnection.step] at hstep
      split_ifs at hstep
      split at hstep
      case h_1 => exact Option.some.inj hstep ▸ h
      case h_2 => exact Option.some.inj hstep ▸ h.setSocket _ _ _
      case h_3 => exact Option.some.inj hstep ▸ h.setSocket _ _ _
      case h_4 => exact Option.some.inj hstep ▸ h.finishSelect
      case h_5 => exact Option.some.inj hstep ▸ h.finishSelect
  | readerSends =>
      simp only [WebConnection.step] at hstep
      split at hstep
      case h_1 =>
        split_ifs at hstep
        · exact Option.some.inj hstep ▸ h.finishSelect
        · exact Option.some.inj hstep ▸ h.setSocket _ _ _
      case h_2 => cases hstep
  | deactivates =>
      simp only [WebConnection.step] at hstep
      split_ifs at hstep with hdone
      obtain rfl := Option.some.inj hstep
      exact h.of_over rfl (fun _ hmem => hmem) (Or.inr rfl) h.relaying

end WebConnection

/-! ## Runs of a connection -/

theorem served_of_run {terminalId : TerminalId} {replayBytes transcriptTailBytes subscription : Nat}
    {active : ActiveAttachment} {c : WebConnection}
    (hrun : WebRun FindsRoom (.start terminalId replayBytes transcriptTailBytes subscription active) c) : c.Served := by
  induction hrun with
  | refl => exact WebConnection.served_start ..
  | tail _ hstep ih =>
      obtain ⟨event, hroom, hstep⟩ := hstep
      exact ih.step hroom hstep

/-- **The subscription of an open connection.** In every run in which nothing is published to a full queue, a connection
that is attached to a running terminal is subscribed to its output. -/
theorem connection_registered {terminalId : TerminalId} {replayBytes transcriptTailBytes subscription : Nat}
    {active : ActiveAttachment} {c : WebConnection}
    (hrun : WebRun FindsRoom (.start terminalId replayBytes transcriptTailBytes subscription active) c) :
    Registered c := fun hattached hnone _ => ((served_of_run hrun).registered hattached hnone).1

/-- A connection to a terminal of a shell, and what its pump has not received yet. -/
def Behind (active : ActiveAttachment) (n : Nat) (c : WebConnection) : Prop :=
  WebRun (fun _ _ => True) (.start active.terminalId (4 * 1024 * 1024) (512 * 1024) 1 active) c ∧
    c.attached = true ∧ c.buffer.exit = none ∧ c.outbound = [] ∧ c.subscription ∈ c.buffer.subscribers ∧
      c.channel.receiver = true ∧ c.channel.queue.length = n

/-- The connection once its greeting is sent, before any output. -/
def streaming (active : ActiveAttachment) : WebConnection :=
  let c := WebConnection.start active.terminalId (4 * 1024 * 1024) (512 * 1024) 1 active
  { c with
    buffer := (c.buffer.subscribe 1 0).1
    phase := .streaming
    pump := .checking }

/-- The greeting of a new terminal, under any condition on what is published. -/
theorem reaches_streaming (active : ActiveAttachment) {allowed : WebEvent → WebConnection → Prop}
    (h : ∀ event c, FindsRoom event c → allowed event c) :
    WebRun allowed (.start active.terminalId (4 * 1024 * 1024) (512 * 1024) 1 active) (streaming active) :=
  .tail (.tail (.tail .refl ⟨.connects 0, h _ _ trivial, rfl⟩) ⟨.greets true, h _ _ trivial, rfl⟩)
    ⟨.greets true, h _ _ trivial, rfl⟩

/-- As long as the queue has room, it gets one event longer with each output. -/
theorem reaches_behind (active : ActiveAttachment) {n : Nat} (hn : n ≤ subscriberQueueChunks) :
    ∃ c, Behind active n c := by
  induction n with
  | zero =>
      exact ⟨streaming active, reaches_streaming active fun _ _ _ => trivial, rfl, rfl, rfl,
        List.mem_singleton_self 1, rfl, rfl⟩
  | succ n ih =>
      obtain ⟨c, hrun, hattached, hnone, houtbound, hmem, hreceiver, hlength⟩ := ih (by omega)
      refine ⟨_, hrun.tail ⟨.publishOutput [10], trivial, rfl⟩, hattached, hnone, houtbound, ?_⟩
      have haccepts : TerminalReplayBuffer.accepts (c.buffer.channels c.subscription) = true := by
        show (c.channel.receiver && decide (c.channel.queue.length < subscriberQueueChunks)) = true
        rw [hreceiver, hlength, Bool.true_and, decide_eq_true_eq]
        omega
      refine ⟨TerminalReplayBuffer.mem_subscribers_publish hmem haccepts, ?_⟩
      have hchannel : ∀ before : TerminalReplayBuffer, ∀ event, before.subscribers = c.buffer.subscribers →
          before.channels = c.buffer.channels → (before.publish event).channels c.subscription =
            { c.channel with queue := c.channel.queue ++ [event] } := by
        intro before event hsubscribers hchannels
        have hown : before.channels c.subscription = c.channel := congrFun hchannels _
        rw [TerminalReplayBuffer.publish_channel (hsubscribers ▸ hmem) (hown ▸ haccepts), hown]
      refine ⟨(congrArg Channel.receiver (hchannel _ _ rfl rfl)).trans hreceiver, ?_⟩
      refine (congrArg (fun channel => channel.queue.length) (hchannel _ _ rfl rfl)).trans ?_
      simp [hlength]

/-- An output that the pump passes on to the socket. -/
theorem connection_registered_output :
    ∃ c : WebConnection, c.attached = true ∧ c.outbound = [.binary (.output 1 [10])] ∧ Registered c := by
  let active : ActiveAttachment := ⟨⟨1⟩, 1, ⟨1⟩, ⟨1⟩, ⟨1⟩, 1, 0, 0⟩
  have hrun : WebRun FindsRoom _ _ := reaches_streaming active fun _ _ h => h
  have hpublished := hrun.tail ⟨.publishOutput [10], fun _ _ => Nat.succ_pos _, rfl⟩
  have hreceived := (hpublished.tail ⟨.pumpChecks, trivial, rfl⟩).tail ⟨.pumpReceives, trivial, rfl⟩
  exact ⟨_, rfl, rfl, connection_registered (hreceived.tail ⟨.pumpSends, trivial, rfl⟩)⟩

/-- When the pump has not received any of 257 outputs, the connection stays open without its subscription. -/
theorem full_queue_unsubscribes :
    ¬∀ c, WebRun (fun _ _ => True)
      (.start ⟨1⟩ (4 * 1024 * 1024) (512 * 1024) 1 ⟨⟨1⟩, 1, ⟨1⟩, ⟨1⟩, ⟨1⟩, 1, 0, 0⟩) c → Registered c := by
  intro h
  obtain ⟨c, hrun, hattached, hnone, houtbound, hmem, hreceiver, hlength⟩ :=
    reaches_behind ⟨⟨1⟩, 1, ⟨1⟩, ⟨1⟩, ⟨1⟩, 1, 0, 0⟩ (Nat.le_refl subscriberQueueChunks)
  refine absurd (h _ (hrun.tail ⟨.publishOutput [10], trivial, rfl⟩) hattached hnone ?_) ?_
  · show Outbound.finish ∉ c.outbound
    rw [houtbound]
    exact List.not_mem_nil
  · refine TerminalReplayBuffer.not_mem_subscribers_publish ?_
    show (c.channel.receiver && decide (c.channel.queue.length < subscriberQueueChunks)) = false
    rw [hreceiver, hlength, Bool.true_and, decide_eq_false_iff_not]
    exact Nat.lt_irrefl _

end HyperTerm.Daemon
