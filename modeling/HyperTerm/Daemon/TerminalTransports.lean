import HyperTerm.Core.TerminalHistory
import HyperTerm.Daemon.WebTerminal
import HyperTerm.Protocol.Wire

/-!
# Replays on the wire

What a subscriber is told goes out in frames, on the local socket or to a browser.

* `wireFrames`, `webFrames` : the frames of a replay;
* `Sendable` : both transports take all of them;
* `sendable_iff_covered` : with the default configuration they do if and only if no snapshot is needed.
-/

namespace HyperTerm.Daemon
open HyperTerm.Protocol HyperTerm.Core HyperTerm.Core.TerminalReplayBuffer

/-! ## Transports -/

/-- "HTWS". -/
def terminalWebMagic : List UInt8 := [72, 84, 87, 83]

def maxTerminalWebPayloadBytes : Nat := 256 * 1024

inductive TerminalWebError where
  | payloadTooLarge (actual maximum : Nat)

/-- The kind, the three numbers of the header, and the payload. -/
def TerminalWebBinaryFrame.fields : TerminalWebBinaryFrame → UInt8 × Nat × Nat × Nat × List UInt8
  | .output sequence bytes => (2, sequence, 0, 0, bytes)
  | .snapshot baseSequence nextSequence totalBytes bytes => (3, baseSequence, nextSequence, totalBytes, bytes)

/-- `encode_terminal_web_binary`. -/
def encodeTerminalWebBinary (frame : TerminalWebBinaryFrame) : Except TerminalWebError (List UInt8) :=
  let (kind, primary, secondary, totalBytes, bytes) := frame.fields
  if maxTerminalWebPayloadBytes < bytes.length then .error (.payloadTooLarge bytes.length maxTerminalWebPayloadBytes)
  else
    .ok (terminalWebMagic ++ beBytes 2 terminalWebProtocolVersion ++ [kind, 0] ++ beBytes 8 primary ++
      beBytes 8 secondary ++ beBytes 8 totalBytes ++ beBytes 4 bytes.length ++ bytes)

/-- What `spawn_terminal_forwarder` writes to the socket. -/
def wireFrames (terminalId : TerminalId) : TerminalReplay → List WireFrame
  | .chunks chunks => chunks.map fun chunk => .terminalOutput ⟨terminalId, chunk.sequence, chunk.bytes⟩
  | .snapshotRequired s => [.terminalSnapshot ⟨terminalId, s.baseSequence, s.nextSequence, s.totalBytes, s.tail⟩]

/-- What `send_replay` encodes. -/
def webFrames : TerminalReplay → List TerminalWebBinaryFrame
  | .chunks chunks => chunks.map fun chunk => .output chunk.sequence chunk.bytes
  | .snapshotRequired s => [.snapshot s.baseSequence s.nextSequence s.totalBytes s.tail]

theorem replayMessages_eq (replay : TerminalReplay) : replayMessages replay = (webFrames replay).map .binary := by
  cases replay with
  | chunks chunks => exact (List.map_map ..).symm
  | snapshotRequired s => rfl

/-- Both transports take the replay. -/
structure Sendable (terminalId : TerminalId) (replay : TerminalReplay) : Prop where
  wire : ∀ frame ∈ wireFrames terminalId replay, (writeFrame frame).isOk = true
  web : ∀ frame ∈ webFrames replay, (encodeTerminalWebBinary frame).isOk = true

/-- `TerminalConfig::default`. -/
def defaultReplayBytes : Nat := 4 * 1024 * 1024

def defaultTranscriptTailBytes : Nat := 512 * 1024

/-- The reader publishes what is in its buffer. -/
def FromReader : TerminalOp → Prop
  | .publishOutput bytes => bytes.length ≤ readerChunkBytes
  | _ => True

instance (op : TerminalOp) : Decidable (FromReader op) :=
  match op with
  | .publishOutput bytes => inferInstanceAs (Decidable (bytes.length ≤ readerChunkBytes))
  | .publishExit _ | .publishFault _ | .subscribe _ | .receive _ | .disconnect _ => isTrue trivial

/-! ## What fits -/

theorem isOk_encodeTerminalWebBinary (frame : TerminalWebBinaryFrame) :
    (encodeTerminalWebBinary frame).isOk = true ↔ frame.fields.2.2.2.2.length ≤ maxTerminalWebPayloadBytes := by
  unfold encodeTerminalWebBinary
  dsimp only
  split_ifs with hlong
  · exact iff_of_false Bool.false_ne_true (Nat.not_le.mpr hlong)
  · exact iff_of_true rfl (Nat.not_lt.mp hlong)

theorem sendable_chunks (terminalId : TerminalId) {chunks : List TerminalChunk}
    (h : ∀ chunk ∈ chunks, chunk.bytes.length ≤ readerChunkBytes) : Sendable terminalId (.chunks chunks) := by
  have hroom : 24 + readerChunkBytes ≤ maxTerminalFrameBytes ∧ readerChunkBytes ≤ maxTerminalWebPayloadBytes := by decide
  constructor
  · intro frame hmem
    obtain ⟨chunk, hchunk, rfl⟩ := List.mem_map.mp hmem
    rw [isOk_writeFrame_output]
    exact (Nat.add_le_add_left (h chunk hchunk) 24).trans hroom.1
  · intro frame hmem
    obtain ⟨chunk, hchunk, rfl⟩ := List.mem_map.mp hmem
    exact (isOk_encodeTerminalWebBinary _).mpr ((h chunk hchunk).trans hroom.2)

theorem sendable_snapshot (terminalId : TerminalId) (s : TerminalSnapshot) :
    Sendable terminalId (.snapshotRequired s) ↔ 40 + s.tail.length ≤ maxTerminalFrameBytes := by
  constructor
  · intro h
    exact (isOk_writeFrame_snapshot _).mp (h.wire _ (List.mem_singleton_self _))
  · intro h
    refine ⟨fun frame hmem => ?_, fun frame hmem => ?_⟩
    · rw [List.mem_singleton.mp hmem, isOk_writeFrame_snapshot]
      exact h
    · rw [List.mem_singleton.mp hmem, isOk_encodeTerminalWebBinary]
      exact (Nat.le_add_left _ 40).trans h

/-! ## What the buffer keeps -/

/-- The tail is as long as its limit allows, and a chunk was forgotten only if there was more than the replay may keep. -/
structure Retained (published : List TerminalEvent) (buffer : TerminalReplayBuffer) : Prop where
  tail : buffer.transcriptTail.length = min (replaySize (outputs published)) buffer.transcriptTailBytes
  bounded : ∀ chunk ∈ buffer.chunks, chunk.bytes.length ≤ readerChunkBytes
  evicted : buffer.chunks = outputs published ∨ buffer.replayBytes < replaySize (outputs published)

section Retained

variable {published : List TerminalEvent} {buffer : TerminalReplayBuffer} {chunks chunks' : List TerminalChunk}

theorem length_appendTranscriptTail (tail bytes : List UInt8) {limit : Nat} (htail : tail.length ≤ limit) :
    (appendTranscriptTail tail bytes limit).length = min (tail.length + bytes.length) limit := by
  unfold appendTranscriptTail
  split_ifs with hlong
  · rw [List.length_drop]
    omega
  · rw [List.length_append, List.length_drop]
    omega

theorem replaySize_le_of_isSuffix (h : chunks <:+ chunks') : replaySize chunks ≤ replaySize chunks' := by
  obtain ⟨older, rfl⟩ := h
  rw [replaySize_append]
  exact Nat.le_add_left _ _

theorem trimChunks_eq_or (replayBytes : Nat) (chunks : List TerminalChunk) :
    trimChunks replayBytes chunks = chunks ∨ replayBytes < replaySize chunks := by
  fun_cases trimChunks replayBytes chunks with
  | case1 => exact Or.inl rfl
  | case2 => exact Or.inl rfl
  | case3 chunk chunks _ hmore => exact Or.inr hmore
  | case4 => exact Or.inl rfl

/-- What is not output changes nothing here. -/
theorem Retained.other (h : Retained published buffer) {event : TerminalEvent} (hevent : event.chunk? = none) :
    Retained (published ++ [event]) buffer := by
  have houtputs : outputs (published ++ [event]) = outputs published := by
    unfold outputs
    rw [List.filterMap_append, List.filterMap_cons_none hevent, List.filterMap_nil, List.append_nil]
  exact ⟨houtputs ▸ h.tail, h.bounded, houtputs ▸ h.evicted⟩

theorem Retained.publishOutput (h : Retained published buffer) (hsuffix : buffer.chunks <:+ outputs published)
    {bytes : List UInt8} (hbytes : bytes.length ≤ readerChunkBytes) :
    Retained (published ++ [.output ⟨buffer.terminalId, buffer.nextSequence, bytes⟩]) (buffer.publishOutput bytes) := by
  have houtputs : outputs (published ++ [.output ⟨buffer.terminalId, buffer.nextSequence, bytes⟩]) =
      outputs published ++ [⟨buffer.terminalId, buffer.nextSequence, bytes⟩] := outputs_append
  have hsize : replaySize (outputs published ++ [⟨buffer.terminalId, buffer.nextSequence, bytes⟩]) =
      replaySize (outputs published) + bytes.length := by
    rw [replaySize_append]
    rfl
  refine ⟨?_, fun chunk hmem => ?_, ?_⟩
  · show (appendTranscriptTail buffer.transcriptTail bytes buffer.transcriptTailBytes).length =
      min (replaySize _) buffer.transcriptTailBytes
    rw [length_appendTranscriptTail _ _ (h.tail ▸ Nat.min_le_right _ _), h.tail, houtputs, hsize]
    omega
  · have hmem' := (trimChunks_isSuffix _ _).subset hmem
    obtain hold | hnew := List.mem_append.mp hmem'
    · exact h.bounded chunk hold
    · rw [List.mem_singleton.mp hnew]
      exact hbytes
  · show trimChunks buffer.replayBytes (buffer.chunks ++ [_]) = _ ∨ buffer.replayBytes < _
    rw [houtputs]
    obtain hsame | hmore := trimChunks_eq_or buffer.replayBytes
      (buffer.chunks ++ [⟨buffer.terminalId, buffer.nextSequence, bytes⟩])
    · rw [hsame]
      obtain hall | hmore' := h.evicted
      · exact Or.inl (congrArg (· ++ [_]) hall)
      · rw [hsize]
        exact Or.inr (hmore'.trans_le (Nat.le_add_right _ _))
    · refine Or.inr (hmore.trans_le ?_)
      rw [replaySize_append, replaySize_append]
      exact Nat.add_le_add_right (replaySize_le_of_isSuffix hsuffix) _

end Retained

/-! ## Runs -/

/-- A buffer of the default configuration whose output comes from the reader. -/
structure FromReaderInv (terminalId : TerminalId) (h : TerminalHistory) : Prop where
  history : HistoryInv h
  retained : Retained h.published h.buffer
  trimmed : replaySize h.buffer.chunks ≤ h.buffer.replayBytes ∨ h.buffer.chunks.length ≤ 1
  terminalId : h.buffer.terminalId = terminalId
  replayBytes : h.buffer.replayBytes = defaultReplayBytes
  transcriptTailBytes : h.buffer.transcriptTailBytes = defaultTranscriptTailBytes

/-- The history of a terminal of the default configuration. -/
def defaultRun (terminalId : TerminalId) (ops : List TerminalOp) : TerminalHistory :=
  .run terminalId defaultReplayBytes defaultTranscriptTailBytes ops

theorem trimChunks_size (replayBytes : Nat) (chunks : List TerminalChunk) :
    replaySize (trimChunks replayBytes chunks) ≤ replayBytes ∨ (trimChunks replayBytes chunks).length ≤ 1 := by
  fun_induction trimChunks replayBytes chunks with
  | case1 => exact Or.inr (Nat.zero_le 1)
  | case2 => exact Or.inr (Nat.le_refl 1)
  | case3 chunk chunks _ _ ih => exact ih
  | case4 _ _ _ hroom => exact Or.inl (Nat.not_lt.mp hroom)

section Runs

variable {terminalId : TerminalId} {h : TerminalHistory} {op : TerminalOp} {ops : List TerminalOp}

theorem FromReaderInv.step (hinv : FromReaderInv terminalId h) (hop : FromReader op) :
    FromReaderInv terminalId (h.step op) := by
  obtain ⟨hhistory, hretained, htrimmed, hid, hreplay, htail⟩ := hinv
  have hstep := hhistory.step op
  cases op with
  | publishOutput bytes =>
      exact ⟨hstep, hretained.publishOutput hhistory.buffer.chunks hop, trimChunks_size _ _, hid, hreplay, htail⟩
  | publishExit exit =>
      unfold TerminalHistory.step publishExit at hstep ⊢
      dsimp only at hstep ⊢
      split_ifs at hstep ⊢ with hexit
      · exact ⟨hstep, hretained, htrimmed, hid, hreplay, htail⟩
      · exact ⟨hstep, { hretained.other rfl with }, htrimmed, hid, hreplay, htail⟩
  | publishFault message => exact ⟨hstep, { hretained.other rfl with }, htrimmed, hid, hreplay, htail⟩
  | subscribe afterSequence => exact ⟨hstep, { hretained with }, htrimmed, hid, hreplay, htail⟩
  | receive id =>
      unfold TerminalHistory.step TerminalHistory.receive at hstep ⊢
      dsimp only at hstep ⊢
      split at hstep
      · exact ⟨hstep, { hretained with }, htrimmed, hid, hreplay, htail⟩
      · exact ⟨hstep, { hretained with }, htrimmed, hid, hreplay, htail⟩
  | disconnect id => exact ⟨hstep, { hretained with }, htrimmed, hid, hreplay, htail⟩

theorem fromReaderInv_run (hops : ∀ op ∈ ops, FromReader op) : FromReaderInv terminalId (defaultRun terminalId ops) := by
  induction ops using List.reverseRecOn with
  | nil =>
      refine ⟨HistoryInv.start _ _ _, ⟨rfl, fun _ hmem => absurd hmem List.not_mem_nil, Or.inl rfl⟩,
        Or.inr (Nat.zero_le 1), rfl, rfl, rfl⟩
  | append_singleton ops op ih =>
      have hstep := (ih fun op' hmem => hops op' (List.mem_append_left _ hmem)).step
        (hops op (List.mem_append_right _ (List.mem_singleton_self op)))
      unfold defaultRun TerminalHistory.run
      rw [List.foldl_concat]
      exact hstep

/-- Where chunks were forgotten, the tail has its full length. -/
theorem FromReaderInv.tail_of_evicted (hinv : FromReaderInv terminalId h) (hevicted : 1 < h.buffer.earliestSequence) :
    h.buffer.transcriptTail.length = defaultTranscriptTailBytes := by
  obtain ⟨hlength, -, -⟩ := hinv.history.buffer.earliest
  have hnext := hinv.history.buffer.next
  have hmore : defaultReplayBytes < replaySize (outputs h.published) := by
    obtain hall | hmore := hinv.retained.evicted
    · rw [hall] at hlength
      omega
    · exact hinv.replayBytes ▸ hmore
  have hlimits : defaultTranscriptTailBytes ≤ defaultReplayBytes := by decide
  rw [hinv.retained.tail, hinv.transcriptTailBytes]
  omega

theorem FromReaderInv.sendable_iff (hinv : FromReaderInv terminalId h) (id afterSequence : Nat) :
    Sendable terminalId (h.buffer.subscribe id afterSequence).2.1 ↔ h.buffer.earliestSequence ≤ afterSequence + 1 := by
  show Sendable terminalId (if afterSequence < h.buffer.earliestSequence - 1 then .snapshotRequired h.buffer.snapshot
    else .chunks (h.buffer.chunks.filter fun chunk => afterSequence < chunk.sequence)) ↔ _
  split_ifs with hbehind
  · have htail := hinv.tail_of_evicted (by omega)
    refine iff_of_false (fun hsendable => ?_) (by omega)
    have hroom : 40 + h.buffer.transcriptTail.length ≤ maxTerminalFrameBytes := (sendable_snapshot _ _).mp hsendable
    rw [htail] at hroom
    exact absurd hroom (by decide)
  · refine iff_of_true (sendable_chunks _ fun chunk hmem => ?_) (by omega)
    exact hinv.retained.bounded chunk (List.mem_filter.mp hmem).1

end Runs

/-- **Main result.** With the default configuration, both transports take what a subscriber is told if and only if its
cursor is still covered: no snapshot fits. -/
theorem sendable_iff_covered (terminalId : TerminalId) (ops : List TerminalOp) (hops : ∀ op ∈ ops, FromReader op)
    (id afterSequence : Nat) :
    Sendable terminalId ((defaultRun terminalId ops).buffer.subscribe id afterSequence).2.1 ↔
      (defaultRun terminalId ops).buffer.earliestSequence ≤ afterSequence + 1 :=
  (fromReaderInv_run hops).sendable_iff id afterSequence

/-- A client that has seen the first of two chunks gets the second. -/
theorem sendable_iff_covered_two :
    Sendable ⟨1⟩ ((defaultRun ⟨1⟩ [.publishOutput [36], .publishOutput [32]]).buffer.subscribe 0 1).2.1 :=
  (sendable_iff_covered ⟨1⟩ _ (by decide) 0 1).mpr (by decide)

/-! ### A client that fell behind -/

/-- The output of a reader whose buffer is always full. -/
def fullReads (count : Nat) : List TerminalOp := List.replicate count (.publishOutput (List.replicate readerChunkBytes 0))

theorem fromReader_fullReads (count : Nat) : ∀ op ∈ fullReads count, FromReader op := by
  intro op hmem
  rw [List.eq_of_mem_replicate hmem]
  exact (List.length_replicate ..).le

theorem outputs_fullReads (terminalId : TerminalId) (count : Nat) :
    (outputs (defaultRun terminalId (fullReads count)).published).length = count ∧
      replaySize (outputs (defaultRun terminalId (fullReads count)).published) = count * readerChunkBytes := by
  induction count with
  | zero => exact ⟨rfl, (Nat.zero_mul _).symm⟩
  | succ count ih =>
      have hrun : defaultRun terminalId (fullReads (count + 1)) =
          (defaultRun terminalId (fullReads count)).step (.publishOutput (List.replicate readerChunkBytes 0)) := by
        unfold defaultRun TerminalHistory.run fullReads
        rw [List.replicate_succ', List.foldl_concat]
      have houtputs : outputs (defaultRun terminalId (fullReads (count + 1))).published =
          outputs (defaultRun terminalId (fullReads count)).published ++
            [⟨(defaultRun terminalId (fullReads count)).buffer.terminalId,
              (defaultRun terminalId (fullReads count)).buffer.nextSequence, List.replicate readerChunkBytes 0⟩] := by
        rw [hrun]
        exact outputs_append
      have hchunk : ∀ (terminalId : TerminalId) (sequence : Nat),
          replaySize [⟨terminalId, sequence, List.replicate readerChunkBytes 0⟩] = readerChunkBytes := by
        intro terminalId sequence
        show (List.replicate readerChunkBytes 0).length + 0 = readerChunkBytes
        rw [List.length_replicate, Nat.add_zero]
      rw [houtputs, List.length_append, List.length_singleton, replaySize_append, ih.1, ih.2, hchunk, Nat.succ_mul]
      exact ⟨rfl, rfl⟩

/-- After 257 full reads the first chunk is gone, and a new client cannot be sent the snapshot. -/
theorem full_reads_not_sendable :
    ¬∀ (ops : List TerminalOp), (∀ op ∈ ops, FromReader op) → ∀ id afterSequence,
      Sendable ⟨1⟩ ((defaultRun ⟨1⟩ ops).buffer.subscribe id afterSequence).2.1 := by
  intro hall
  have hinv : FromReaderInv ⟨1⟩ (defaultRun ⟨1⟩ (fullReads 257)) := fromReaderInv_run (fromReader_fullReads 257)
  have hcovered := (hinv.sendable_iff 0 0).mp (hall _ (fromReader_fullReads 257) 0 0)
  obtain ⟨hlength, hsize⟩ := outputs_fullReads ⟨1⟩ 257
  obtain ⟨hkept, hchunks, hone⟩ := hinv.history.buffer.earliest
  have hfirst : (defaultRun ⟨1⟩ (fullReads 257)).buffer.earliestSequence = 1 := by omega
  rw [hfirst, Nat.sub_self, List.drop_zero] at hchunks
  obtain hsmall | hshort := hinv.trimmed
  · rw [hchunks, hsize, hinv.replayBytes] at hsmall
    exact absurd hsmall (by decide)
  · rw [hchunks, hlength] at hshort
    exact absurd hshort (by decide)

end HyperTerm.Daemon
