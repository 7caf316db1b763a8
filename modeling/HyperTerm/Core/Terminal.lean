import HyperTerm.Protocol.Block

/-!
# Terminal sessions and their output

* `TerminalSession.writeInput`, `TerminalSession.resize` : input and sizes are numbered, and a number not above the
  last one is stale;
* `TerminalReplayBuffer` : the output kept for clients that reconnect, and the bounded queues of its subscribers.
  A subscriber whose queue is full when something is published is dropped.
-/

namespace HyperTerm.Core
open HyperTerm.Protocol

inductive TerminalError where
  | io (message : String)
  | pty (message : String)
  | invalidSize (message : String)
  | notFound (terminalId : TerminalId)
  | inputTooLarge (length : Nat)
  | staleInputSequence (current actual : Nat)
  | staleResizeGeneration (current actual : Nat)
  | spawn (message : String)
  deriving DecidableEq

def readerChunkBytes : Nat := 16 * 1024

def TerminalSize.validate (size : TerminalSize) : Except String Unit :=
  if size.cols = 0 ∨ size.rows = 0 then .error "terminal rows and columns must be non-zero"
  else if 1000 < size.cols ∨ 1000 < size.rows then .error "terminal dimensions exceed the supported bound"
  else .ok ()

structure TerminalExit where
  exitCode : Option Nat
  signal : Option String
  deriving DecidableEq

/-! ## Sessions -/

structure TerminalSession where
  lastInputSequence : Nat
  resizeGeneration : Nat
  exit : Option TerminalExit
  deriving DecidableEq

namespace TerminalSession

def new : TerminalSession := ⟨0, 0, none⟩

/-- `written` is how the write to the PTY goes. -/
def writeInput (session : TerminalSession) (written : Except String Unit) (inputSequence : Nat)
    (bytes : List UInt8) : TerminalSession × Except TerminalError Unit :=
  if readerChunkBytes < bytes.length then (session, .error (.inputTooLarge bytes.length))
  else if inputSequence ≤ session.lastInputSequence then
    (session, .error (.staleInputSequence session.lastInputSequence inputSequence))
  else
    match written with
    | .error message => (session, .error (.io message))
    | .ok () => ({ session with lastInputSequence := inputSequence }, .ok ())

/-- `resized` is what the PTY answers. -/
def resize (session : TerminalSession) (resized : Except String Unit) (generation : Nat) (size : TerminalSize) :
    TerminalSession × Except TerminalError Unit :=
  match TerminalSize.validate size with
  | .error message => (session, .error (.invalidSize message))
  | .ok () =>
      if generation ≤ session.resizeGeneration then
        (session, .error (.staleResizeGeneration session.resizeGeneration generation))
      else
        match resized with
        | .error message => (session, .error (.pty message))
        | .ok () => ({ session with resizeGeneration := generation }, .ok ())

theorem writeInput_cases (session : TerminalSession) (written : Except String Unit) (inputSequence : Nat)
    (bytes : List UInt8) :
    (∃ e, session.writeInput written inputSequence bytes = (session, .error e) ∧
      (inputSequence = session.lastInputSequence + 1 → ∀ current actual, e ≠ .staleInputSequence current actual)) ∨
      session.writeInput written inputSequence bytes =
        ({ session with lastInputSequence := inputSequence }, .ok ()) := by
  unfold writeInput
  by_cases hlength : readerChunkBytes < bytes.length
  · simp only [hlength, if_true]
    refine Or.inl ⟨_, rfl, fun _ _ _ h => ?_⟩
    cases h
  · by_cases hstale : inputSequence ≤ session.lastInputSequence
    · simp only [hlength, hstale, if_true, if_false]
      exact Or.inl ⟨_, rfl, fun heq => absurd hstale (by omega)⟩
    · simp only [hlength, hstale, if_false]
      cases written with
      | error message =>
          refine Or.inl ⟨_, rfl, fun _ _ _ h => ?_⟩
          cases h
      | ok => exact Or.inr rfl

theorem resize_cases (session : TerminalSession) (resized : Except String Unit) (generation : Nat)
    (size : TerminalSize) :
    (∃ e, session.resize resized generation size = (session, .error e) ∧
      (generation = session.resizeGeneration + 1 → ∀ current actual, e ≠ .staleResizeGeneration current actual)) ∨
      session.resize resized generation size = ({ session with resizeGeneration := generation }, .ok ()) := by
  unfold resize
  cases TerminalSize.validate size with
  | error message =>
      refine Or.inl ⟨_, rfl, fun _ _ _ h => ?_⟩
      cases h
  | ok =>
      by_cases hstale : generation ≤ session.resizeGeneration
      · simp only [hstale, if_true]
        exact Or.inl ⟨_, rfl, fun heq => absurd hstale (by omega)⟩
      · simp only [hstale, if_false]
        cases resized with
        | error message =>
            refine Or.inl ⟨_, rfl, fun _ _ _ h => ?_⟩
            cases h
        | ok => exact Or.inr rfl

end TerminalSession

/-! ## Output and subscribers -/

structure TerminalChunk where
  terminalId : TerminalId
  sequence : Nat
  bytes : List UInt8
  deriving DecidableEq

inductive TerminalEvent where
  | output (chunk : TerminalChunk)
  | exited (exit : TerminalExit)
  | fault (message : String)
  deriving DecidableEq

structure TerminalSnapshot where
  terminalId : TerminalId
  baseSequence : Nat
  nextSequence : Nat
  totalBytes : Nat
  tail : List UInt8
  exit : Option TerminalExit
  deriving DecidableEq

inductive TerminalReplay where
  | chunks (chunks : List TerminalChunk)
  | snapshotRequired (snapshot : TerminalSnapshot)
  deriving DecidableEq

def subscriberQueueChunks : Nat := 256

/-- A bounded channel: what is queued, and whether its receiver still exists. -/
structure Channel where
  queue : List TerminalEvent
  receiver : Bool
  deriving DecidableEq

/-- `subscribers` names the channels whose sender the buffer holds. -/
structure TerminalReplayBuffer where
  terminalId : TerminalId
  replayBytes : Nat
  transcriptTailBytes : Nat
  nextSequence : Nat
  totalBytes : Nat
  chunks : List TerminalChunk
  transcriptTail : List UInt8
  subscribers : List Nat
  channels : Nat → Channel
  exit : Option TerminalExit

namespace TerminalReplayBuffer

def new (terminalId : TerminalId) (replayBytes transcriptTailBytes : Nat) : TerminalReplayBuffer where
  terminalId := terminalId
  replayBytes := max replayBytes 1
  transcriptTailBytes := max transcriptTailBytes 1
  nextSequence := 1
  totalBytes := 0
  chunks := []
  transcriptTail := []
  subscribers := []
  channels := fun _ => ⟨[], false⟩
  exit := none

def replaySize (chunks : List TerminalChunk) : Nat := (chunks.map fun chunk => chunk.bytes.length).sum

theorem replaySize_append (chunks chunks' : List TerminalChunk) :
    replaySize (chunks ++ chunks') = replaySize chunks + replaySize chunks' := by
  unfold replaySize
  rw [List.map_append, List.sum_append]

/-- The oldest chunks are forgotten until the rest fits, but never the last one. -/
def trimChunks (replayBytes : Nat) : List TerminalChunk → List TerminalChunk
  | [] => []
  | [chunk] => [chunk]
  | chunk :: chunks =>
      if replayBytes < replaySize (chunk :: chunks) then trimChunks replayBytes chunks else chunk :: chunks

def appendTranscriptTail (tail bytes : List UInt8) (limit : Nat) : List UInt8 :=
  if limit ≤ bytes.length then bytes.drop (bytes.length - limit)
  else tail.drop (tail.length + bytes.length - limit) ++ bytes

/-- `try_send` to one subscriber. -/
def accepts (channel : Channel) : Bool := channel.receiver && channel.queue.length < subscriberQueueChunks

def publish (buffer : TerminalReplayBuffer) (event : TerminalEvent) : TerminalReplayBuffer :=
  { buffer with
    subscribers := buffer.subscribers.filter fun id => accepts (buffer.channels id)
    channels := fun id =>
      let channel := buffer.channels id
      if id ∈ buffer.subscribers ∧ accepts channel then { channel with queue := channel.queue ++ [event] }
      else channel }

def publishOutput (buffer : TerminalReplayBuffer) (bytes : List UInt8) : TerminalReplayBuffer :=
  let chunk : TerminalChunk := ⟨buffer.terminalId, buffer.nextSequence, bytes⟩
  publish { buffer with
    nextSequence := buffer.nextSequence + 1
    totalBytes := min (buffer.totalBytes + bytes.length) (2 ^ 64 - 1)
    chunks := trimChunks buffer.replayBytes (buffer.chunks ++ [chunk])
    transcriptTail := appendTranscriptTail buffer.transcriptTail bytes buffer.transcriptTailBytes } (.output chunk)

def publishExit (buffer : TerminalReplayBuffer) (exit : TerminalExit) : TerminalReplayBuffer :=
  if buffer.exit.isSome then buffer else publish { buffer with exit := some exit } (.exited exit)

def publishFault (buffer : TerminalReplayBuffer) (message : String) : TerminalReplayBuffer :=
  publish buffer (.fault message)

def earliestSequence (buffer : TerminalReplayBuffer) : Nat :=
  (buffer.chunks.head?.map TerminalChunk.sequence).getD buffer.nextSequence

def snapshot (buffer : TerminalReplayBuffer) : TerminalSnapshot where
  terminalId := buffer.terminalId
  baseSequence := earliestSequence buffer
  nextSequence := buffer.nextSequence
  totalBytes := buffer.totalBytes
  tail := buffer.transcriptTail
  exit := buffer.exit

/-- `id` names the new channel. -/
def subscribe (buffer : TerminalReplayBuffer) (id afterSequence : Nat) :
    TerminalReplayBuffer × TerminalReplay × Option TerminalExit :=
  let replay :=
    if afterSequence < earliestSequence buffer - 1 then .snapshotRequired (snapshot buffer)
    else .chunks (buffer.chunks.filter fun chunk => afterSequence < chunk.sequence)
  ({ buffer with
      subscribers := if buffer.exit.isNone then buffer.subscribers ++ [id] else buffer.subscribers
      channels := fun i => if i = id then ⟨[], true⟩ else buffer.channels i },
    replay, buffer.exit)

/-! ## What publishing does to one channel -/

theorem mem_subscribers_publish {buffer : TerminalReplayBuffer} {event : TerminalEvent} {id : Nat}
    (hmem : id ∈ buffer.subscribers) (haccepts : accepts (buffer.channels id) = true) :
    id ∈ (buffer.publish event).subscribers := List.mem_filter.mpr ⟨hmem, haccepts⟩

theorem not_mem_subscribers_publish {buffer : TerminalReplayBuffer} {event : TerminalEvent} {id : Nat}
    (haccepts : accepts (buffer.channels id) = false) : id ∉ (buffer.publish event).subscribers := fun hmem =>
  absurd (haccepts.symm.trans (List.mem_filter.mp hmem).2) Bool.false_ne_true

theorem publish_channel {buffer : TerminalReplayBuffer} {event : TerminalEvent} {id : Nat}
    (hmem : id ∈ buffer.subscribers) (haccepts : accepts (buffer.channels id) = true) :
    (buffer.publish event).channels id =
      { buffer.channels id with queue := (buffer.channels id).queue ++ [event] } := if_pos ⟨hmem, haccepts⟩

@[simp] theorem publish_exit (buffer : TerminalReplayBuffer) (event : TerminalEvent) :
    (buffer.publish event).exit = buffer.exit := rfl

@[simp] theorem publish_receiver (buffer : TerminalReplayBuffer) (event : TerminalEvent) (id : Nat) :
    ((buffer.publish event).channels id).receiver = (buffer.channels id).receiver := by
  unfold publish
  dsimp only
  split_ifs <;> rfl

theorem mem_queue_publish {buffer : TerminalReplayBuffer} {event e : TerminalEvent} {id : Nat}
    (h : e ∈ ((buffer.publish event).channels id).queue) : e = event ∨ e ∈ (buffer.channels id).queue := by
  unfold publish at h
  dsimp only at h
  split_ifs at h
  · rcases List.mem_append.mp h with h | h
    · exact Or.inr h
    · exact Or.inl (List.mem_singleton.mp h)
  · exact Or.inr h

end TerminalReplayBuffer

end HyperTerm.Core
