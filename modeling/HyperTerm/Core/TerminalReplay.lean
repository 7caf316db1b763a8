import HyperTerm.Core.TerminalHistory
import HyperTerm.Lib.Result
import HyperTerm.Lib.Saturating
import Mathlib.Data.List.DropRight

/-!
# The sizes a replay buffer keeps

`publish_output` keeps the size of its chunks as a running number, and trims the tail of the transcript with saturating
arithmetic on lengths. A `VecDeque` that would grow beyond `isize::MAX` bytes panics, which poisons the lock.

* `Slice` : a block of bytes, as long as the language admits;
* `appendTail` : `append_transcript_tail`, an error when it panics, with the tail that is left then;
* `LockedReplay` : the fields of the buffer and of the state behind its lock;
* `publishOutput_ofBuffer` : without a panic the buffer is the one whose size is computed from its chunks;
* `replay_sizes_exact` : the tail is the end of the transcript, and the running size is exact;
* `replayOf`, `lockedReplay_refines` : any calls keep such a buffer behind the lock, exactly while the tail fits.
-/

namespace HyperTerm.Core
open HyperTerm.Protocol HyperTerm.Lib TerminalReplayBuffer

def isizeMax : Nat := 2 ^ 63 - 1

def usizeMax : Nat := 2 ^ 64 - 1

/-- `&[u8]`. -/
structure Slice where
  bytes : List UInt8
  length_le : bytes.length ≤ isizeMax

/-- What the blocks of a transcript make together. -/
def transcript (blocks : List Slice) : List UInt8 := (blocks.map Slice.bytes).flatten

@[simp] theorem transcript_concat (blocks : List Slice) (block : Slice) :
    transcript (blocks ++ [block]) = transcript blocks ++ block.bytes := by
  simp [transcript]

/-! ## The tail of the transcript -/

/-- `tail.drain(..count)`. -/
def drain (tail : List UInt8) (count : Nat) : Except (List UInt8) (List UInt8) :=
  if count ≤ tail.length then .ok (tail.drop count) else .error tail

/-- `tail.extend(bytes)`. -/
def extend (tail bytes : List UInt8) : Except (List UInt8) (List UInt8) :=
  if tail.length + bytes.length ≤ isizeMax then .ok (tail ++ bytes) else .error tail

/-- `append_transcript_tail`. -/
def appendTail (limit : Nat) (tail : List UInt8) (block : Slice) : Except (List UInt8) (List UInt8) :=
  if limit ≤ block.bytes.length then extend [] (block.bytes.drop (block.bytes.length - limit))
  else do
    let overflow := satAdd usizeMax tail.length block.bytes.length - limit
    let tail ← if 0 < overflow then drain tail overflow else .ok tail
    extend tail block.bytes

variable {limit : Nat} {tail tail' seen bytes : List UInt8} {block : Slice}

theorem extend_eq_ok : extend tail bytes = .ok tail' ↔ tail.length + bytes.length ≤ isizeMax ∧ tail' = tail ++ bytes := by
  unfold extend
  split_ifs with h
  · exact ⟨fun heq => ⟨h, (Except.ok.inj heq).symm⟩, fun heq => congrArg _ heq.2.symm⟩
  · exact ⟨fun heq => (nomatch heq), fun heq => absurd heq.1 h⟩

/-- The sum of the lengths does not saturate, and no more is drained than there is. -/
theorem appendTail_eq (htail : tail.length ≤ isizeMax) : appendTail limit tail block =
    if limit ≤ block.bytes.length then .ok (block.bytes.drop (block.bytes.length - limit))
    else extend (tail.drop (tail.length + block.bytes.length - limit)) block.bytes := by
  have hblock := block.length_le
  unfold appendTail
  split_ifs with hlong
  · refine extend_eq_ok.mpr ⟨?_, (List.nil_append _).symm⟩
    rw [List.length_nil, List.length_drop]
    omega
  · have hsum : satAdd usizeMax tail.length block.bytes.length = tail.length + block.bytes.length := by
      refine satAdd_eq_add ?_
      unfold isizeMax at htail hblock
      unfold usizeMax
      omega
    rw [hsum]
    dsimp only
    split_ifs with hoverflow
    · have hdrain : drain tail (tail.length + block.bytes.length - limit) =
          .ok (tail.drop (tail.length + block.bytes.length - limit)) := if_pos (by omega)
      rw [hdrain]
      rfl
    · rw [Nat.eq_zero_of_not_pos hoverflow, List.drop_zero]
      rfl

/-- The end of what has been seen, after one more block. -/
theorem rtake_append : (seen ++ bytes).rtake limit =
    if limit ≤ bytes.length then bytes.drop (bytes.length - limit)
    else (seen.rtake limit).drop ((seen.rtake limit).length + bytes.length - limit) ++ bytes := by
  unfold List.rtake
  rw [List.length_append]
  split_ifs with hlong
  · have hdrop : seen.length + bytes.length - limit = seen.length + (bytes.length - limit) := by omega
    rw [hdrop, List.drop_length_add_append]
  · rw [List.drop_append_of_le_length (by omega), List.drop_drop, List.length_drop]
    congr 2
    omega

theorem length_rtake : (seen.rtake limit).length = min seen.length limit := by
  unfold List.rtake
  rw [List.length_drop]
  omega

theorem rtake_min : seen.rtake (min seen.length limit) = seen.rtake limit := by
  unfold List.rtake
  congr 1
  omega

/-- One step of the fold: a tail that exists is the end of the transcript. -/
theorem appendTail_rtake (hseen : (seen.rtake limit).length ≤ isizeMax) :
    appendTail limit (seen.rtake limit) block = .ok tail' ↔
      min (seen ++ block.bytes).length limit ≤ isizeMax ∧ tail' = (seen ++ block.bytes).rtake limit := by
  have hblock := block.length_le
  rw [appendTail_eq hseen, ← length_rtake, rtake_append]
  split_ifs with hlong
  · rw [Except.ok.injEq, List.length_drop]
    exact ⟨fun h => ⟨by omega, h.symm⟩, fun h => h.2.symm⟩
  · rw [extend_eq_ok, List.length_append]

theorem foldlM_appendTail (limit : Nat) (blocks : List Slice) (tail : List UInt8) :
    blocks.foldlM (appendTail limit) [] = .ok tail ↔
      min (transcript blocks).length limit ≤ isizeMax ∧ tail = (transcript blocks).rtake limit := by
  induction blocks using List.reverseRecOn generalizing tail with
  | nil =>
      rw [List.foldlM_nil, pure_eq_ok]
      simp [transcript, eq_comm]
  | append_singleton blocks block ih =>
      rw [foldlM_concat_eq_ok, transcript_concat]
      constructor
      · rintro ⟨before, hbefore, hblock⟩
        obtain ⟨hfits, rfl⟩ := (ih before).mp hbefore
        exact (appendTail_rtake (length_rtake ▸ hfits)).mp hblock
      · rintro ⟨hfits, htail⟩
        have hbefore : min (transcript blocks).length limit ≤ isizeMax := by
          rw [List.length_append] at hfits
          omega
        exact ⟨_, (ih _).mpr ⟨hbefore, rfl⟩, (appendTail_rtake (length_rtake ▸ hbefore)).mpr ⟨hfits, htail⟩⟩

/-! ## The buffer -/

/-- `poisoned` is whether a call has panicked under the lock. -/
structure LockedReplay where
  terminalId : TerminalId
  replayBytes : Nat
  transcriptTailBytes : Nat
  nextSequence : Nat
  totalBytes : Nat
  chunks : List TerminalChunk
  replaySize : Nat
  transcriptTail : List UInt8
  poisoned : Bool

namespace LockedReplay

def new (terminalId : TerminalId) (replayBytes transcriptTailBytes : Nat) : LockedReplay where
  terminalId := terminalId
  replayBytes := max replayBytes 1
  transcriptTailBytes := max transcriptTailBytes 1
  nextSequence := 1
  totalBytes := 0
  chunks := []
  replaySize := 0
  transcriptTail := []
  poisoned := false

/-- The loop of `publish_output`. -/
def evict (replayBytes : Nat) : Nat → List TerminalChunk → Nat × List TerminalChunk
  | size, removed :: next :: chunks =>
      if replayBytes < size then evict replayBytes (size - removed.bytes.length) (next :: chunks)
      else (size, removed :: next :: chunks)
  | size, chunks => (size, chunks)

def publishOutput (buffer : LockedReplay) (block : Slice) : LockedReplay :=
  if buffer.poisoned then buffer
  else
    let chunk : TerminalChunk := ⟨buffer.terminalId, buffer.nextSequence, block.bytes⟩
    let kept := evict buffer.replayBytes (buffer.replaySize + chunk.bytes.length) (buffer.chunks ++ [chunk])
    let buffer := { buffer with
      nextSequence := buffer.nextSequence + 1
      totalBytes := satAdd (2 ^ 64 - 1) buffer.totalBytes block.bytes.length
      replaySize := kept.1
      chunks := kept.2 }
    match appendTail buffer.transcriptTailBytes buffer.transcriptTail block with
    | .ok tail => { buffer with transcriptTail := tail }
    | .error tail => { buffer with transcriptTail := tail, poisoned := true }

def publishAll (buffer : LockedReplay) (blocks : List Slice) : LockedReplay := blocks.foldl publishOutput buffer

theorem replaySize_cons (chunk : TerminalChunk) (chunks : List TerminalChunk) :
    TerminalReplayBuffer.replaySize (chunk :: chunks) = chunk.bytes.length + TerminalReplayBuffer.replaySize chunks := by
  unfold TerminalReplayBuffer.replaySize
  rw [List.map_cons, List.sum_cons]

theorem replaySize_concat (chunks : List TerminalChunk) (chunk : TerminalChunk) :
    TerminalReplayBuffer.replaySize (chunks ++ [chunk]) = TerminalReplayBuffer.replaySize chunks + chunk.bytes.length := by
  rw [replaySize_append, replaySize_cons]
  rfl

theorem evict_replaySize (replayBytes : Nat) (chunks : List TerminalChunk) :
    evict replayBytes (TerminalReplayBuffer.replaySize chunks) chunks =
      (TerminalReplayBuffer.replaySize (trimChunks replayBytes chunks), trimChunks replayBytes chunks) := by
  fun_induction trimChunks replayBytes chunks with
  | case1 => rfl
  | case2 => rfl
  | case3 removed chunks hne hover ih =>
      obtain ⟨next, rest, rfl⟩ := List.exists_cons_of_ne_nil hne
      rw [evict, if_pos hover, replaySize_cons, Nat.add_sub_cancel_left, ih]
  | case4 removed chunks hne hover =>
      obtain ⟨next, rest, rfl⟩ := List.exists_cons_of_ne_nil hne
      rw [evict, if_neg hover]

/-- More than the bound is only kept in one chunk. -/
theorem length_trimChunks {replayBytes : Nat} {chunks : List TerminalChunk}
    (hover : replayBytes < TerminalReplayBuffer.replaySize (trimChunks replayBytes chunks)) :
    (trimChunks replayBytes chunks).length = 1 := by
  fun_induction trimChunks replayBytes chunks with
  | case1 => exact absurd hover (Nat.not_lt_zero _)
  | case2 => rfl
  | case3 removed chunks hne hmore ih => exact ih hover
  | case4 removed chunks hne hmore => exact absurd hover hmore

/-- What a buffer has behind its lock. -/
def ofBuffer (buffer : TerminalReplayBuffer) : LockedReplay where
  terminalId := buffer.terminalId
  replayBytes := buffer.replayBytes
  transcriptTailBytes := buffer.transcriptTailBytes
  nextSequence := buffer.nextSequence
  totalBytes := buffer.totalBytes
  chunks := buffer.chunks
  replaySize := TerminalReplayBuffer.replaySize buffer.chunks
  transcriptTail := buffer.transcriptTail
  poisoned := false

/-- Where the tail fits, the running size is what is computed from the chunks. -/
theorem publishOutput_ofBuffer {buffer : TerminalReplayBuffer} {block : Slice} {tail : List UInt8}
    (hlength : buffer.transcriptTail.length ≤ isizeMax)
    (htail : appendTail buffer.transcriptTailBytes buffer.transcriptTail block = .ok tail) :
    (ofBuffer buffer).publishOutput block = ofBuffer (buffer.publishOutput block.bytes) := by
  have hsame : tail = appendTranscriptTail buffer.transcriptTail block.bytes buffer.transcriptTailBytes := by
    rw [appendTail_eq hlength] at htail
    unfold appendTranscriptTail
    split_ifs at htail ⊢ with hlong
    · exact (Except.ok.inj htail).symm
    · exact (extend_eq_ok.mp htail).2
  unfold publishOutput
  rw [if_neg (by exact Bool.false_ne_true)]
  dsimp only [ofBuffer]
  rw [htail, ← replaySize_concat buffer.chunks ⟨buffer.terminalId, buffer.nextSequence, block.bytes⟩, evict_replaySize,
    hsame]
  rfl

/-- The chunks are numbered up to the next one, their size is known, and only a single one exceeds the bound. -/
structure ReplaySound (buffer : LockedReplay) : Prop where
  numbered : ∃ first, Numbered first buffer.chunks ∧ first + buffer.chunks.length = buffer.nextSequence
  size : buffer.replaySize = TerminalReplayBuffer.replaySize buffer.chunks
  bounded : buffer.replayBytes < buffer.replaySize → buffer.chunks.length = 1

theorem replaySound_new (terminalId : TerminalId) (replayBytes transcriptTailBytes : Nat) :
    ReplaySound (new terminalId replayBytes transcriptTailBytes) where
  numbered := ⟨1, numbered_nil 1, rfl⟩
  size := rfl
  bounded h := absurd h (Nat.not_lt_zero _)

variable {buffer : LockedReplay} {block : Slice}

/-- A call that finds the lock sound changes the chunks and their size in the same way, panic or not. -/
theorem publishOutput_cases (buffer : LockedReplay) (block : Slice) :
    buffer.publishOutput block = buffer ∨
    let chunk : TerminalChunk := ⟨buffer.terminalId, buffer.nextSequence, block.bytes⟩
    let kept := evict buffer.replayBytes (buffer.replaySize + chunk.bytes.length) (buffer.chunks ++ [chunk])
    (buffer.publishOutput block).replayBytes = buffer.replayBytes ∧
      (buffer.publishOutput block).nextSequence = buffer.nextSequence + 1 ∧
      (buffer.publishOutput block).replaySize = kept.1 ∧ (buffer.publishOutput block).chunks = kept.2 := by
  unfold publishOutput
  split_ifs
  · exact Or.inl rfl
  · refine Or.inr ?_
    dsimp only
    split
    · exact ⟨rfl, rfl, rfl, rfl⟩
    · exact ⟨rfl, rfl, rfl, rfl⟩

theorem ReplaySound.publishOutput (hsound : ReplaySound buffer) : ReplaySound (buffer.publishOutput block) := by
  rcases publishOutput_cases buffer block with hsame | ⟨hbytes, hnext, hsize, hchunks⟩
  · rw [hsame]
    exact hsound
  · obtain ⟨first, hnumbered, hlast⟩ := hsound.numbered
    obtain ⟨chunk, hchunk⟩ : ∃ chunk : TerminalChunk, chunk = ⟨buffer.terminalId, buffer.nextSequence, block.bytes⟩ :=
      ⟨_, rfl⟩
    have hadded : buffer.replaySize + chunk.bytes.length = TerminalReplayBuffer.replaySize (buffer.chunks ++ [chunk]) := by
      rw [hsound.size, replaySize_concat]
    rw [← hchunk, hadded, evict_replaySize] at hsize hchunks
    have hall : Numbered first (buffer.chunks ++ [chunk]) := by
      refine numbered_append.mpr ⟨hnumbered, numbered_cons.mpr ⟨?_, numbered_nil _⟩⟩
      rw [hchunk, hlast]
    refine ⟨?_, ?_, ?_⟩
    · obtain ⟨gone, hgone⟩ := trimChunks_isSuffix buffer.replayBytes (buffer.chunks ++ [chunk])
      rw [← hgone] at hall
      have hcount := congrArg List.length hgone
      rw [List.length_append, List.length_append, List.length_singleton] at hcount
      refine ⟨first + gone.length, ?_, ?_⟩
      · rw [hchunks]
        exact (numbered_append.mp hall).2
      · rw [hnext, hchunks, ← hlast]
        dsimp only
        omega
    · rw [hsize, hchunks]
    · intro hover
      rw [hbytes, hsize] at hover
      rw [hchunks]
      exact length_trimChunks hover

theorem ReplaySound.publishAll (hsound : ReplaySound buffer) (blocks : List Slice) :
    ReplaySound (buffer.publishAll blocks) := by
  induction blocks generalizing buffer with
  | nil => exact hsound
  | cons block blocks ih => exact ih hsound.publishOutput

/-! ## What the lock guards is a buffer -/

/-- The blocks published to a new buffer, their size and the end of the transcript computed afresh each time. -/
def replayOf (terminalId : TerminalId) (replayBytes transcriptTailBytes : Nat) (blocks : List Slice) :
    TerminalReplayBuffer :=
  blocks.foldl (fun buffer block => buffer.publishOutput block.bytes)
    (TerminalReplayBuffer.new terminalId replayBytes transcriptTailBytes)

variable {terminalId : TerminalId} {replayBytes transcriptTailBytes : Nat} {blocks : List Slice}

theorem replayOf_concat : replayOf terminalId replayBytes transcriptTailBytes (blocks ++ [block]) =
    (replayOf terminalId replayBytes transcriptTailBytes blocks).publishOutput block.bytes := by
  unfold replayOf
  rw [List.foldl_append]
  rfl

theorem transcriptTailBytes_replayOf (blocks : List Slice) :
    (replayOf terminalId replayBytes transcriptTailBytes blocks).transcriptTailBytes = max transcriptTailBytes 1 := by
  induction blocks using List.reverseRecOn with
  | nil => rfl
  | append_singleton blocks block ih =>
      rw [replayOf_concat]
      exact ih

theorem transcriptTail_replayOf (blocks : List Slice) :
    (replayOf terminalId replayBytes transcriptTailBytes blocks).transcriptTail =
      (transcript blocks).rtake (max transcriptTailBytes 1) := by
  induction blocks using List.reverseRecOn with
  | nil => exact (List.rtake_nil _).symm
  | append_singleton blocks block ih =>
      rw [replayOf_concat, transcript_concat, rtake_append, ← ih, ← transcriptTailBytes_replayOf blocks]
      rfl

/-- Once a call has panicked, no later one does anything. -/
theorem publishOutput_poisoned (h : buffer.poisoned = true) : buffer.publishOutput block = buffer := if_pos h

theorem poisoned_publishOutput {tail : List UInt8}
    (htail : appendTail buffer.transcriptTailBytes buffer.transcriptTail block = .error tail) :
    (buffer.publishOutput block).poisoned = true := by
  unfold publishOutput
  split_ifs with hpoisoned
  · exact hpoisoned
  · dsimp only
    rw [htail]

theorem publishAll_concat : buffer.publishAll (blocks ++ [block]) = (buffer.publishAll blocks).publishOutput block := by
  unfold publishAll
  rw [List.foldl_append]
  rfl

/-- By induction on the blocks: the calls keep the buffer up to the first whose tail does not fit, and that one leaves
the lock poisoned. -/
theorem publishAll_cases (blocks : List Slice) :
    (min (transcript blocks).length (max transcriptTailBytes 1) ≤ isizeMax ∧
      (new terminalId replayBytes transcriptTailBytes).publishAll blocks =
        ofBuffer (replayOf terminalId replayBytes transcriptTailBytes blocks)) ∨
    (isizeMax < min (transcript blocks).length (max transcriptTailBytes 1) ∧
      ((new terminalId replayBytes transcriptTailBytes).publishAll blocks).poisoned = true) := by
  induction blocks using List.reverseRecOn with
  | nil => exact Or.inl ⟨by simp [transcript], rfl⟩
  | append_singleton blocks block ih =>
      rw [publishAll_concat, replayOf_concat]
      rcases ih with ⟨hfits, hbuffer⟩ | ⟨hlong, hpoisoned⟩
      · rw [hbuffer]
        have hlength : ((transcript blocks).rtake (max transcriptTailBytes 1)).length ≤ isizeMax :=
          length_rtake ▸ hfits
        have htail : appendTail (replayOf terminalId replayBytes transcriptTailBytes blocks).transcriptTailBytes
              (replayOf terminalId replayBytes transcriptTailBytes blocks).transcriptTail block =
            appendTail (max transcriptTailBytes 1) ((transcript blocks).rtake (max transcriptTailBytes 1)) block := by
          rw [transcriptTailBytes_replayOf, transcriptTail_replayOf]
        rw [transcript_concat]
        cases hstep : appendTail (max transcriptTailBytes 1)
            ((transcript blocks).rtake (max transcriptTailBytes 1)) block with
        | ok tail =>
            refine Or.inl ⟨((appendTail_rtake hlength).mp hstep).1, publishOutput_ofBuffer ?_ (htail.trans hstep)⟩
            rw [transcriptTail_replayOf]
            exact hlength
        | error tail =>
            refine Or.inr ⟨?_, poisoned_publishOutput (htail.trans hstep)⟩
            by_contra hle
            have hok := (appendTail_rtake hlength).mpr ⟨Nat.le_of_not_lt hle, rfl⟩
            rw [hstep] at hok
            cases hok
      · rw [publishOutput_poisoned hpoisoned]
        refine Or.inr ⟨?_, hpoisoned⟩
        rw [transcript_concat, List.length_append]
        omega

end LockedReplay

/-- **Main result.** The fold gives the last bytes of the transcript, as many as the limit admits, wherever a
`VecDeque` can hold them, and after any calls of `publish_output` the chunks are numbered up to the next one, the
running size is the sum of their lengths, and it exceeds the bound only if one chunk remains. -/
theorem replay_sizes_exact :
    (∀ (limit : Nat) (blocks : List Slice) (tail : List UInt8), blocks.foldlM (appendTail limit) [] = .ok tail ↔
      min (transcript blocks).length limit ≤ isizeMax ∧
        tail = (transcript blocks).rtake (min (transcript blocks).length limit)) ∧
    ∀ (terminalId : TerminalId) (replayBytes transcriptTailBytes : Nat) (blocks : List Slice),
      ((LockedReplay.new terminalId replayBytes transcriptTailBytes).publishAll blocks).ReplaySound := by
  refine ⟨fun limit blocks tail => ?_, fun terminalId replayBytes transcriptTailBytes blocks => ?_⟩
  · rw [rtake_min]
    exact foldlM_appendTail limit blocks tail
  · exact (LockedReplay.replaySound_new _ _ _).publishAll blocks

end HyperTerm.Core
