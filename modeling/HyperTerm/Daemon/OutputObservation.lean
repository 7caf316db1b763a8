import HyperTerm.Core.Kinds
import HyperTerm.Core.TerminalHistory
import HyperTerm.Lib.Saturating

/-!
# How the output of a terminal is accounted for

The monitor of a terminal subscribes to its output from the beginning and records in the journal how many bytes it saw, in
batches. It is told of output by the replay, by its channel and, once the channel has overflowed, by a snapshot of the
session. An append to the journal may fail, and what it was to record stays pending.

* `OutputObservation`, `Recorder` : the counters, and with them what was recorded;
* `MonitoredTerminal` : the terminal, its subscribers and the monitor, which go on in any order;
* `Accounts` : the counters against the chunks they were told of;
* `outputObservation_sound` : what holds of the record in every run.

This is the monitor of an operation's terminal. That of a user's shell records no output.
-/

namespace HyperTerm.Daemon
open HyperTerm.Protocol HyperTerm.Core HyperTerm.Core.TerminalReplayBuffer HyperTerm.Lib

/-- `u64::MAX`. -/
def maxU64 : Nat := 2 ^ 64 - 1

def observationBatchBytes : Nat := 64 * 1024

/-! ## The counters -/

structure OutputObservation where
  lastSequence : Nat
  pendingBytes : Nat
  recordedBytes : Nat
  deriving DecidableEq

namespace OutputObservation

def zero : OutputObservation := ⟨0, 0, 0⟩

def observe (o : OutputObservation) (sequence bytes : Nat) : OutputObservation :=
  if sequence ≤ o.lastSequence then o
  else { o with lastSequence := sequence, pendingBytes := satAdd maxU64 o.pendingBytes bytes }

def observeSnapshot (o : OutputObservation) (snapshot : TerminalSnapshot) : OutputObservation :=
  let accounted := satAdd maxU64 o.recordedBytes o.pendingBytes
  { o with
    lastSequence := max o.lastSequence (snapshot.nextSequence - 1)
    pendingBytes := satAdd maxU64 o.pendingBytes (snapshot.totalBytes - accounted) }

end OutputObservation

/-- The `stream_sequence` and the `byte_count` of a `TerminalOutputObserved`. -/
structure Observed where
  streamSequence : Nat
  byteCount : Nat
  deriving DecidableEq

/-- The monitor's counters, what is in the journal, and whether an append of the monitor failed. -/
structure Recorder where
  observation : OutputObservation
  recorded : List Observed
  failed : Bool
  deriving DecidableEq

namespace Recorder

def new : Recorder := ⟨.zero, [], false⟩

/-- The batch that is pending, in the journal. -/
def flushed (r : Recorder) : Recorder where
  observation := { r.observation with
    pendingBytes := 0
    recordedBytes := satAdd maxU64 r.observation.recordedBytes r.observation.pendingBytes }
  recorded := r.recorded ++ [⟨r.observation.lastSequence, r.observation.pendingBytes⟩]
  failed := r.failed

/-- `accepted` is whether `record` succeeds. -/
def flushObservationIfNeeded (r : Recorder) (accepted force : Bool) : Recorder :=
  if r.observation.pendingBytes = 0 ∨ (force = false ∧ r.observation.pendingBytes < observationBatchBytes) then r
  else if accepted then r.flushed
  else { r with failed := true }

def observeChunk (r : Recorder) (accepted : Bool) (chunk : TerminalChunk) : Recorder :=
  flushObservationIfNeeded { r with observation := r.observation.observe chunk.sequence chunk.bytes.length } accepted false

def observeSnapshot (r : Recorder) (accepted : Bool) (snapshot : TerminalSnapshot) : Recorder :=
  flushObservationIfNeeded { r with observation := r.observation.observeSnapshot snapshot } accepted true

/-- The plain sum of the byte counts in the journal. -/
def recordedTotal (r : Recorder) : Nat := (r.recorded.map Observed.byteCount).sum

end Recorder

/-! ## The monitor beside its terminal -/

/-- Where `monitor_terminal` is. `id` names its channel; `replay` is what is left of the replay and `exit` what
`subscribe` answered. -/
inductive MonitorPhase where
  | starting
  | replaying (id : Nat) (replay : TerminalReplay) (exit : Option TerminalExit)
  | watching (id : Nat)
  /-- It called `finalize_terminal`. -/
  | finalized
  /-- It fell behind its channel and the process had not exited. -/
  | fellBehind

structure MonitoredTerminal where
  history : TerminalHistory
  phase : MonitorPhase
  recorder : Recorder

namespace MonitoredTerminal

def start (terminalId : TerminalId) (replayBytes transcriptTailBytes : Nat) : MonitoredTerminal :=
  ⟨.start terminalId replayBytes transcriptTailBytes, .starting, .new⟩

/-- What is done with an event of the channel. -/
def handle (m : MonitoredTerminal) (accepted : Bool) : TerminalEvent → MonitoredTerminal
  | .output chunk => { m with recorder := m.recorder.observeChunk accepted chunk }
  | .exited _ => { m with recorder := m.recorder.flushObservationIfNeeded accepted true, phase := .finalized }
  | .fault _ => m

/-- The channel is empty and its sender is gone: the monitor goes by the session's snapshot. -/
def lost (m : MonitoredTerminal) (accepted : Bool) : MonitoredTerminal :=
  { m with
    recorder := m.recorder.observeSnapshot accepted m.history.buffer.snapshot
    phase := if m.history.buffer.snapshot.exit.isSome then .finalized else .fellBehind }

/-- The next step of `monitor_terminal`, if it is not waiting. `accepted` is how the append of this step goes. -/
def monitorTerminal (m : MonitoredTerminal) (accepted : Bool) : Option MonitoredTerminal :=
  match m.phase with
  | .starting =>
      let answer := m.history.buffer.subscribe m.history.subscriptions.length 0
      some { m with
        history := m.history.subscribe 0
        phase := .replaying m.history.subscriptions.length answer.2.1 answer.2.2 }
  | .replaying id (.snapshotRequired snapshot) exit =>
      some { m with
        recorder := m.recorder.observeSnapshot accepted snapshot
        phase := .replaying id (.chunks []) exit }
  | .replaying id (.chunks (chunk :: chunks)) exit =>
      some { m with
        recorder := m.recorder.observeChunk accepted chunk
        phase := .replaying id (.chunks chunks) exit }
  | .replaying id (.chunks []) exit =>
      if exit.isSome then
        some { m with recorder := m.recorder.flushObservationIfNeeded accepted true, phase := .finalized }
      else some { m with phase := .watching id }
  | .watching id =>
      match m.history.buffer.channels id with
      | ⟨event :: _, true⟩ => some (handle { m with history := m.history.receive id } accepted event)
      | ⟨[], true⟩ => if id ∈ m.history.buffer.subscribers then none else some (m.lost accepted)
      | ⟨_, false⟩ => none
  | .finalized | .fellBehind => none

/-- The monitor's channel. -/
def channel? (m : MonitoredTerminal) : Option Nat :=
  match m.phase with
  | .replaying id _ _ => some id
  | .watching id => some id
  | _ => none

/-- What others can do. The process is reported to have exited when the thread that reads its output has been joined, and
no one else has the receiver of the monitor. -/
def Permits (m : MonitoredTerminal) : TerminalOp → Prop
  | .publishOutput _ => m.history.buffer.exit = none
  | .receive id | .disconnect id => m.channel? ≠ some id
  | .publishExit _ | .publishFault _ | .subscribe _ => True

end MonitoredTerminal

inductive MonitorStep : MonitoredTerminal → MonitoredTerminal → Prop
  | terminal {m : MonitoredTerminal} (op : TerminalOp) (hop : m.Permits op) :
      MonitorStep m { m with history := m.history.step op }
  | monitor {m m' : MonitoredTerminal} (accepted : Bool) (h : m.monitorTerminal accepted = some m') : MonitorStep m m'

/-! ## The counters against the chunks -/

section Accounts

variable {chunks : List TerminalChunk} {chunk : TerminalChunk} {r : Recorder} {snapshot : TerminalSnapshot} {n : Nat}
  {accepted force : Bool}

/-- A flush does nothing, files what is pending, or fails. -/
theorem flush_cases (r : Recorder) (accepted force : Bool) :
    (r.flushObservationIfNeeded accepted force = r ∧ (r.observation.pendingBytes = 0 ∨ force = false)) ∨
      (0 < r.observation.pendingBytes ∧ r.flushObservationIfNeeded accepted force = r.flushed) ∨
      (0 < r.observation.pendingBytes ∧ r.flushObservationIfNeeded accepted force = { r with failed := true }) := by
  unfold Recorder.flushObservationIfNeeded
  split_ifs with hskip
  · exact Or.inl ⟨rfl, hskip.imp_right And.left⟩
  · exact Or.inr (Or.inl ⟨Nat.pos_of_ne_zero fun hzero => hskip (Or.inl hzero), rfl⟩)
  · exact Or.inr (Or.inr ⟨Nat.pos_of_ne_zero fun hzero => hskip (Or.inl hzero), rfl⟩)

@[simp] theorem flush_lastSequence (r : Recorder) (accepted force : Bool) :
    (r.flushObservationIfNeeded accepted force).observation.lastSequence = r.observation.lastSequence := by
  obtain ⟨h, -⟩ | ⟨-, h⟩ | ⟨-, h⟩ := flush_cases r accepted force <;> rw [h] <;> rfl

/-- A flush at the end leaves nothing pending unless an append failed. -/
theorem flush_force_pending (h : (r.flushObservationIfNeeded accepted true).failed = false) :
    (r.flushObservationIfNeeded accepted true).observation.pendingBytes = 0 := by
  obtain ⟨heq, hzero⟩ | ⟨-, heq⟩ | ⟨-, heq⟩ := flush_cases r accepted true
  · rw [heq]
    exact hzero.resolve_right Bool.noConfusion
  · rw [heq]
    rfl
  · rw [heq] at h
    cases h

/-- The counters account for the first `last_sequence` of the chunks, each byte once. -/
structure Accounts (chunks : List TerminalChunk) (r : Recorder) : Prop where
  last : r.observation.lastSequence ≤ chunks.length
  bytes : r.recordedTotal + r.observation.pendingBytes ≤ replaySize (chunks.take r.observation.lastSequence)
  accounted : satAdd maxU64 r.recordedTotal r.observation.pendingBytes =
    min (replaySize (chunks.take r.observation.lastSequence)) maxU64
  recordedBytes : r.observation.recordedBytes = min r.recordedTotal maxU64
  increasing : r.recorded.Pairwise fun earlier later => earlier.streamSequence < later.streamSequence
  recorded : ∀ e ∈ r.recorded, 0 < e.streamSequence ∧ e.streamSequence ≤ r.observation.lastSequence
  /-- What is pending came after what is recorded. -/
  pending : 0 < r.observation.pendingBytes →
    0 < r.observation.lastSequence ∧ ∀ e ∈ r.recorded, e.streamSequence < r.observation.lastSequence

theorem replaySize_take_le (chunks : List TerminalChunk) (n : Nat) : replaySize (chunks.take n) ≤ replaySize chunks := by
  conv_rhs => rw [← List.take_append_drop n chunks, replaySize_append]
  exact Nat.le_add_right _ _

theorem accounts_new (chunks : List TerminalChunk) : Accounts chunks .new where
  last := Nat.zero_le _
  bytes := Nat.zero_le _
  accounted := rfl
  recordedBytes := rfl
  increasing := .nil
  recorded _ h := absurd h List.not_mem_nil
  pending h := absurd h (Nat.lt_irrefl 0)

namespace Accounts

/-- More output changes nothing for what was seen. -/
theorem append (h : Accounts chunks r) (more : List TerminalChunk) : Accounts (chunks ++ more) r := by
  have htake : (chunks ++ more).take r.observation.lastSequence = chunks.take r.observation.lastSequence :=
    List.take_append_of_le_length h.last
  refine { h with last := ?_, bytes := ?_, accounted := ?_ }
  · rw [List.length_append]
    exact Nat.le_trans h.last (Nat.le_add_right _ _)
  · rw [htake]
    exact h.bytes
  · rw [htake]
    exact h.accounted

/-- The batch is filed under the last sequence, and what was recorded before has lower ones. -/
theorem flushed (h : Accounts chunks r) (hpending : 0 < r.observation.pendingBytes) : Accounts chunks r.flushed := by
  obtain ⟨hlast, hbefore⟩ := h.pending hpending
  have htotal : r.flushed.recordedTotal = r.recordedTotal + r.observation.pendingBytes := by
    unfold Recorder.recordedTotal Recorder.flushed
    rw [List.map_append, List.sum_append]
    rfl
  constructor
  case last => exact h.last
  case bytes =>
    rw [htotal]
    exact h.bytes
  case accounted =>
    rw [htotal]
    exact h.accounted
  case recordedBytes =>
    show satAdd maxU64 r.observation.recordedBytes r.observation.pendingBytes = _
    rw [htotal, h.recordedBytes, satAdd_min_left]
    rfl
  case increasing =>
    refine List.pairwise_append.mpr ⟨h.increasing, List.pairwise_singleton _ _, fun e he e' he' => ?_⟩
    rw [List.mem_singleton.mp he']
    exact hbefore e he
  case recorded =>
    intro e he
    obtain he | he := List.mem_append.mp he
    · exact h.recorded e he
    · rw [List.mem_singleton.mp he]
      exact ⟨hlast, Nat.le_refl _⟩
  case pending => exact fun hzero => absurd hzero (Nat.lt_irrefl 0)

theorem flush (h : Accounts chunks r) : Accounts chunks (r.flushObservationIfNeeded accepted force) := by
  obtain ⟨heq, -⟩ | ⟨hpending, heq⟩ | ⟨-, heq⟩ := flush_cases r accepted force
  · rw [heq]
    exact h
  · rw [heq]
    exact h.flushed hpending
  · rw [heq]
    exact ⟨h.last, h.bytes, h.accounted, h.recordedBytes, h.increasing, h.recorded, h.pending⟩

/-- The next chunk is counted. -/
theorem observe (h : Accounts chunks r) (hnumbered : Numbered 1 chunks)
    (hget : chunks[r.observation.lastSequence]? = some chunk) :
    Accounts chunks { r with observation := r.observation.observe chunk.sequence chunk.bytes.length } ∧
      (r.observation.observe chunk.sequence chunk.bytes.length).lastSequence = r.observation.lastSequence + 1 := by
  obtain ⟨hlt, rfl⟩ := List.getElem?_eq_some_iff.mp hget
  have hsequence : chunks[r.observation.lastSequence].sequence = r.observation.lastSequence + 1 := by
    have hmap : (chunks.map TerminalChunk.sequence)[r.observation.lastSequence]? =
        (List.range' 1 chunks.length)[r.observation.lastSequence]? := congrArg (·[r.observation.lastSequence]?) hnumbered
    rw [List.getElem?_map, hget, List.getElem?_range' hlt] at hmap
    have hsequence := Option.some.inj hmap
    omega
  have hobserve : r.observation.observe chunks[r.observation.lastSequence].sequence chunks[r.observation.lastSequence].bytes.length =
      { r.observation with
        lastSequence := r.observation.lastSequence + 1
        pendingBytes := satAdd maxU64 r.observation.pendingBytes chunks[r.observation.lastSequence].bytes.length } := by
    unfold OutputObservation.observe
    rw [hsequence, if_neg (by omega)]
  have hsize : replaySize (chunks.take (r.observation.lastSequence + 1)) =
      replaySize (chunks.take r.observation.lastSequence) + chunks[r.observation.lastSequence].bytes.length := by
    rw [List.take_succ_eq_append_getElem hlt, replaySize_append]
    rfl
  rw [hobserve]
  refine ⟨{ h with last := hlt, bytes := ?_, accounted := ?_, recorded := ?_, pending := ?_ }, rfl⟩
  · show r.recordedTotal + satAdd maxU64 _ _ ≤ replaySize (chunks.take (r.observation.lastSequence + 1))
    rw [hsize]
    have hbytes := h.bytes
    have hle := @satAdd_le_add maxU64 r.observation.pendingBytes chunks[r.observation.lastSequence].bytes.length
    omega
  · show satAdd maxU64 r.recordedTotal (satAdd maxU64 _ _) = min (replaySize (chunks.take (r.observation.lastSequence + 1))) maxU64
    rw [hsize]
    have haccounted := h.accounted
    unfold satAdd at haccounted ⊢
    omega
  · intro e he
    obtain ⟨hpos, hle⟩ := h.recorded e he
    exact ⟨hpos, Nat.le_succ_of_le hle⟩
  · intro _
    exact ⟨Nat.succ_pos _, fun e he => Nat.lt_succ_of_le (h.recorded e he).2⟩

/-- What a snapshot has and the counters have not is counted. -/
theorem observeSnapshot (h : Accounts chunks r) (hn : n ≤ chunks.length) (hlast : r.observation.lastSequence ≤ n)
    (hnext : snapshot.nextSequence = n + 1) (htotal : snapshot.totalBytes = min (replaySize (chunks.take n)) maxU64) :
    Accounts chunks { r with observation := r.observation.observeSnapshot snapshot } ∧
      (r.observation.observeSnapshot snapshot).lastSequence = n := by
  have hobserve : r.observation.observeSnapshot snapshot =
      { r.observation with
        lastSequence := n
        pendingBytes := satAdd maxU64 r.observation.pendingBytes (min (replaySize (chunks.take n)) maxU64 -
          satAdd maxU64 r.recordedTotal r.observation.pendingBytes) } := by
    unfold OutputObservation.observeSnapshot
    dsimp only
    rw [hnext, htotal, Nat.add_sub_cancel, Nat.max_eq_right hlast, h.recordedBytes, satAdd_min_left]
  have hsize : replaySize (chunks.take r.observation.lastSequence) ≤ replaySize (chunks.take n) := by
    have htake : chunks.take r.observation.lastSequence = (chunks.take n).take r.observation.lastSequence := by
      rw [List.take_take, Nat.min_eq_left hlast]
    rw [htake]
    exact replaySize_take_le _ _
  rw [hobserve]
  refine ⟨{ h with
    last := hn, bytes := add_missing_le (Nat.le_trans h.bytes hsize), accounted := satAdd_missing (Nat.le_trans h.bytes hsize)
    recorded := ?_, pending := ?_ }, rfl⟩
  · intro e he
    obtain ⟨hpos, hle⟩ := h.recorded e he
    exact ⟨hpos, Nat.le_trans hle hlast⟩
  · intro hpending
    by_cases hbefore : 0 < r.observation.pendingBytes
    · obtain ⟨hpos, hlower⟩ := h.pending hbefore
      exact ⟨Nat.lt_of_lt_of_le hpos hlast, fun e he => Nat.lt_of_lt_of_le (hlower e he) hlast⟩
    · -- nothing was pending, so that the snapshot has chunks that were not seen
      have hlt : r.observation.lastSequence < n := by
        refine Nat.lt_of_le_of_ne hlast fun heq => ?_
        have haccounted := h.accounted
        rw [heq] at haccounted
        have hpending' : 0 < satAdd maxU64 r.observation.pendingBytes (min (replaySize (chunks.take n)) maxU64 -
          satAdd maxU64 r.recordedTotal r.observation.pendingBytes) := hpending
        rw [haccounted] at hpending'
        unfold satAdd at hpending'
        omega
      exact ⟨Nat.zero_lt_of_lt hlt, fun e he => Nat.lt_of_le_of_lt (h.recorded e he).2 hlt⟩

theorem observeChunk (h : Accounts chunks r) (hnumbered : Numbered 1 chunks)
    (hget : chunks[r.observation.lastSequence]? = some chunk) (accepted : Bool) :
    Accounts chunks (r.observeChunk accepted chunk) ∧
      (r.observeChunk accepted chunk).observation.lastSequence = r.observation.lastSequence + 1 := by
  obtain ⟨haccounts, hlast⟩ := h.observe hnumbered hget
  exact ⟨haccounts.flush, (flush_lastSequence _ _ _).trans hlast⟩

theorem catchUp (h : Accounts chunks r) (hn : n ≤ chunks.length) (hlast : r.observation.lastSequence ≤ n)
    (hnext : snapshot.nextSequence = n + 1) (htotal : snapshot.totalBytes = min (replaySize (chunks.take n)) maxU64)
    (accepted : Bool) :
    Accounts chunks (r.observeSnapshot accepted snapshot) ∧
      (r.observeSnapshot accepted snapshot).observation.lastSequence = n := by
  obtain ⟨haccounts, hlast⟩ := h.observeSnapshot hn hlast hnext htotal
  exact ⟨haccounts.flush, (flush_lastSequence _ _ _).trans hlast⟩

end Accounts

end Accounts

/-! ## The terminal -/

section Terminal

variable {h h' : TerminalHistory} {op : TerminalOp} {id : Nat}

/-- The buffer counts what was published, and nothing is output after the exit. -/
structure CountSound (h : TerminalHistory) : Prop where
  total : h.buffer.totalBytes = min (replaySize (outputs h.published)) maxU64
  exited : ∀ before exit after, h.published = before ++ .exited exit :: after → outputs after = []
  running : h.buffer.exit = none → ∀ exit, .exited exit ∉ h.published

/-- What is published is never taken back, and the exit is the end of the output. -/
structure Grows (h h' : TerminalHistory) : Prop where
  published : ∃ events, h'.published = h.published ++ events ∧ (h.buffer.exit.isSome → outputs events = [])
  exit : h.buffer.exit.isSome → h'.buffer.exit.isSome

theorem Grows.same (hpublished : h'.published = h.published) (hexit : h'.buffer.exit = h.buffer.exit) : Grows h h' :=
  ⟨⟨[], by rw [hpublished, List.append_nil], fun _ => rfl⟩, fun hsome => hexit ▸ hsome⟩

theorem receive_published (h : TerminalHistory) (id : Nat) :
    (h.receive id).published = h.published ∧ (h.receive id).buffer.exit = h.buffer.exit ∧
      (h.receive id).buffer.totalBytes = h.buffer.totalBytes := by
  unfold TerminalHistory.receive
  split <;> exact ⟨rfl, rfl, rfl⟩

theorem Grows.step (hop : ∀ bytes, op = .publishOutput bytes → h.buffer.exit = none) : Grows h (h.step op) := by
  cases op with
  | publishOutput bytes =>
      refine ⟨⟨_, rfl, fun hsome => ?_⟩, fun hsome => hsome⟩
      rw [hop bytes rfl] at hsome
      cases hsome
  | publishExit exit =>
      refine ⟨?_, fun hsome => ?_⟩
      · show ∃ events, (if h.buffer.exit.isSome then h.published else h.published ++ [.exited exit]) = _ ∧ _
        split_ifs
        · exact ⟨[], (List.append_nil _).symm, fun _ => rfl⟩
        · exact ⟨_, rfl, fun _ => rfl⟩
      · show (h.buffer.publishExit exit).exit.isSome
        unfold TerminalReplayBuffer.publishExit
        rw [if_pos hsome]
        exact hsome
  | publishFault message => exact ⟨⟨_, rfl, fun _ => rfl⟩, fun hsome => hsome⟩
  | subscribe afterSequence => exact .same rfl rfl
  | receive id => exact .same (receive_published h id).1 (receive_published h id).2.1
  | disconnect id => exact .same rfl rfl

namespace CountSound

theorem start (terminalId : TerminalId) (replayBytes transcriptTailBytes : Nat) :
    CountSound (.start terminalId replayBytes transcriptTailBytes) where
  total := rfl
  exited before exit after heq := by
    have hmem : TerminalEvent.exited exit ∈ (TerminalHistory.start terminalId replayBytes transcriptTailBytes).published := by
      rw [heq]
      exact List.mem_append_right _ List.mem_cons_self
    cases hmem
  running _ exit hmem := by cases hmem

theorem same (hcount : CountSound h) (hpublished : h'.published = h.published) (hexit : h'.buffer.exit = h.buffer.exit)
    (htotal : h'.buffer.totalBytes = h.buffer.totalBytes) : CountSound h' := by
  refine ⟨?_, ?_, ?_⟩
  · rw [htotal, hpublished]
    exact hcount.total
  · rw [hpublished]
    exact hcount.exited
  · rw [hpublished, hexit]
    exact hcount.running

/-- An event is published, as the first exit or while there was none, or with no output. -/
theorem publish (hcount : CountSound h) (event : TerminalEvent) (hpublished : h'.published = h.published ++ [event])
    (htotal : h'.buffer.totalBytes = min (replaySize (outputs (h.published ++ [event]))) maxU64)
    (hevent : event.chunk? = none ∨ h.buffer.exit = none)
    (hexit : h'.buffer.exit = none → h.buffer.exit = none ∧ ∀ exit, event ≠ .exited exit) : CountSound h' := by
  refine ⟨hpublished ▸ htotal, fun before exit after heq => ?_, fun hnone exit hmem => ?_⟩
  · rw [hpublished] at heq
    obtain rfl | ⟨after', last, rfl⟩ := List.eq_nil_or_concat after
    · rfl
    · rw [List.concat_eq_append, ← List.cons_append, ← List.append_assoc] at heq
      obtain ⟨hbefore, hlast⟩ := List.append_inj' heq rfl
      obtain rfl := (List.cons.inj hlast).1
      have hnone : event.chunk? = none := hevent.resolve_right fun hnone => hcount.running hnone exit (by
        rw [hbefore]
        exact List.mem_append_right _ List.mem_cons_self)
      rw [List.concat_eq_append, outputs_append, hcount.exited before exit after' hbefore]
      exact List.filterMap_cons_none hnone
  · obtain ⟨hnone', hne⟩ := hexit hnone
    rw [hpublished] at hmem
    obtain hmem | hmem := List.mem_append.mp hmem
    · exact hcount.running hnone' exit hmem
    · exact hne exit (List.mem_singleton.mp hmem).symm

theorem step (hcount : CountSound h) (hop : ∀ bytes, op = .publishOutput bytes → h.buffer.exit = none) :
    CountSound (h.step op) := by
  cases op with
  | publishOutput bytes =>
      refine hcount.publish _ rfl ?_ (Or.inr (hop bytes rfl)) fun hnone => ⟨hnone, fun _ h => by cases h⟩
      show satAdd maxU64 h.buffer.totalBytes bytes.length = _
      rw [outputs_append, replaySize_append, hcount.total, satAdd_min_left]
      rfl
  | publishExit exit =>
      by_cases hexit : h.buffer.exit.isSome
      · have hsame : h.step (.publishExit exit) = h := by
          unfold TerminalHistory.step TerminalReplayBuffer.publishExit
          dsimp only
          rw [if_pos hexit, if_pos hexit]
        rw [hsame]
        exact hcount
      · have hbuffer : h.buffer.publishExit exit = TerminalReplayBuffer.publish { h.buffer with exit := some exit } (.exited exit) :=
          if_neg hexit
        refine hcount.publish (.exited exit) (if_neg hexit) ?_ (Or.inl rfl) fun hnone => ?_
        · show (h.buffer.publishExit exit).totalBytes = _
          rw [hbuffer, outputs_append, replaySize_append]
          exact hcount.total
        · have hsome : (h.buffer.publishExit exit).exit = some exit := by rw [hbuffer]; rfl
          have hnone' : (h.buffer.publishExit exit).exit = none := hnone
          rw [hsome] at hnone'
          cases hnone'
  | publishFault message =>
      refine hcount.publish (.fault message) rfl ?_ (Or.inl rfl) fun hnone => ⟨hnone, fun _ h => by cases h⟩
      rw [outputs_append, replaySize_append]
      exact hcount.total
  | subscribe afterSequence => exact hcount.same rfl rfl rfl
  | receive id =>
      obtain ⟨hpublished, hexit, htotal⟩ := receive_published h id
      exact hcount.same hpublished hexit htotal
  | disconnect id => exact hcount.same rfl rfl rfl

end CountSound

/-- Others leave a subscription as it is. -/
theorem subscription_step {sub : Subscription} (hsub : h.subscriptions[id]? = some sub) (hop : op ≠ .receive id) :
    (h.step op).subscriptions[id]? = some sub := by
  cases op with
  | subscribe afterSequence =>
      show (h.subscriptions ++ [_])[id]? = some sub
      rw [List.getElem?_append_left (List.getElem?_eq_some_iff.mp hsub).1]
      exact hsub
  | receive id' =>
      have hne : id' ≠ id := fun heq => hop (congrArg _ heq)
      show (h.receive id').subscriptions[id]? = some sub
      unfold TerminalHistory.receive
      split
      · show (h.subscriptions.modify id' _)[id]? = some sub
        rw [List.getElem?_modify_ne _ _ hne]
        exact hsub
      · exact hsub
  | publishOutput _ | publishExit _ | publishFault _ | disconnect _ => exact hsub

end Terminal

/-! ## The monitor -/

/-- What is left of a replay when `told` had been output at its time and the chunks up to `last` have been seen. -/
def ReplayRest (told : List TerminalChunk) (last : Nat) : TerminalReplay → Prop
  | .chunks rest => rest = told.drop last
  | .snapshotRequired snapshot =>
      snapshot.nextSequence = told.length + 1 ∧ snapshot.totalBytes = min (replaySize told) maxU64

/-- How far the monitor is, by its phase. -/
def PhaseInv (h : TerminalHistory) (r : Recorder) : MonitorPhase → Prop
  | .starting => r = .new
  | .replaying id replay exit => ∃ sub, h.subscriptions[id]? = some sub ∧ sub.received = [] ∧
      r.observation.lastSequence ≤ (outputs (h.published.take sub.since)).length ∧
      ReplayRest (outputs (h.published.take sub.since)) r.observation.lastSequence replay ∧
      (exit.isSome → h.buffer.exit.isSome ∧ outputs (h.published.drop sub.since) = [])
  | .watching id => ∃ sub, h.subscriptions[id]? = some sub ∧
      r.observation.lastSequence = (outputs (h.published.take sub.since ++ sub.received)).length
  | .finalized => h.buffer.exit.isSome ∧ r.observation.lastSequence = (outputs h.published).length ∧
      (r.failed = false → r.observation.pendingBytes = 0)
  | .fellBehind => True

structure MonitorInv (m : MonitoredTerminal) : Prop where
  history : HistoryInv m.history
  count : CountSound m.history
  accounts : Accounts (outputs m.history.published) m.recorder
  phase : PhaseInv m.history m.recorder m.phase

namespace MonitorInv

variable {m m' : MonitoredTerminal} {h' : TerminalHistory} {id : Nat} {sub : Subscription} {accepted : Bool}

theorem start (terminalId : TerminalId) (replayBytes transcriptTailBytes : Nat) :
    MonitorInv (.start terminalId replayBytes transcriptTailBytes) :=
  ⟨.start _ _ _, .start _ _ _, accounts_new _, rfl⟩

/-- The phase keeps its place when others go on. -/
theorem phase_grows (hinv : MonitorInv m) (hgrows : Grows m.history h')
    (hsub : ∀ id sub, m.channel? = some id → m.history.subscriptions[id]? = some sub → h'.subscriptions[id]? = some sub) :
    PhaseInv h' m.recorder m.phase := by
  obtain ⟨⟨events, hpublished, hevents⟩, hexit⟩ := hgrows
  have hphase := hinv.phase
  have htake : ∀ sub ∈ m.history.subscriptions, h'.published.take sub.since = m.history.published.take sub.since := by
    intro sub hmem
    rw [hpublished]
    exact List.take_append_of_le_length (hinv.history.answered sub hmem).since
  unfold MonitoredTerminal.channel? at hsub
  cases hm : m.phase with
  | starting =>
      rw [hm] at hphase
      exact hphase
  | replaying id replay exit =>
      rw [hm] at hphase hsub
      obtain ⟨sub, hget, hreceived, hlast, hrest, hexited⟩ := hphase
      have hmem := List.mem_of_getElem? hget
      refine ⟨sub, hsub id sub rfl hget, hreceived, ?_, ?_, fun hsome => ?_⟩
      · rw [htake sub hmem]
        exact hlast
      · rw [htake sub hmem]
        exact hrest
      · obtain ⟨hsome', hnil⟩ := hexited hsome
        refine ⟨hexit hsome', ?_⟩
        rw [hpublished, List.drop_append_of_le_length (hinv.history.answered sub hmem).since, outputs_append, hnil,
          hevents hsome']
        rfl
  | watching id =>
      rw [hm] at hphase hsub
      obtain ⟨sub, hget, hlast⟩ := hphase
      refine ⟨sub, hsub id sub rfl hget, ?_⟩
      rw [htake sub (List.mem_of_getElem? hget)]
      exact hlast
  | finalized =>
      rw [hm] at hphase
      obtain ⟨hsome, hlast, hpending⟩ := hphase
      refine ⟨hexit hsome, ?_, hpending⟩
      rw [hpublished, outputs_append, hevents hsome, List.append_nil]
      exact hlast
  | fellBehind => trivial

theorem accounts_grows (hinv : MonitorInv m) (hgrows : Grows m.history h') : Accounts (outputs h'.published) m.recorder := by
  obtain ⟨⟨events, hpublished, -⟩, -⟩ := hgrows
  rw [hpublished, outputs_append]
  exact hinv.accounts.append _

theorem terminal (hinv : MonitorInv m) {op : TerminalOp} (hop : m.Permits op) :
    MonitorInv { m with history := m.history.step op } := by
  have hrunning : ∀ bytes, op = .publishOutput bytes → m.history.buffer.exit = none := by
    rintro bytes rfl
    exact hop
  have hgrows := Grows.step hrunning
  refine ⟨hinv.history.step op, hinv.count.step hrunning, hinv.accounts_grows hgrows, hinv.phase_grows hgrows ?_⟩
  intro id sub hchannel hget
  refine subscription_step hget ?_
  rintro rfl
  exact hop hchannel

/-- All that a subscription was told of and received lies before the end of the output. -/
theorem published_split (hinv : MonitorInv m) (hget : m.history.subscriptions[id]? = some sub) :
    ∃ later, m.history.published = m.history.published.take sub.since ++ m.history.delivered id sub ++ later := by
  obtain ⟨later, hlater⟩ := hinv.history.delivered id sub hget
  refine ⟨later, ?_⟩
  rw [List.append_assoc, hlater, List.take_append_drop]

/-- The monitor subscribes, with nothing seen. -/
theorem subscribed (hinv : MonitorInv m) (hphase : m.phase = .starting) :
    MonitorInv { m with
      history := m.history.subscribe 0
      phase := .replaying m.history.subscriptions.length
        (m.history.buffer.subscribe m.history.subscriptions.length 0).2.1
        (m.history.buffer.subscribe m.history.subscriptions.length 0).2.2 } := by
  have hnew : m.recorder = .new := by
    have hphase' := hinv.phase
    rw [hphase] at hphase'
    exact hphase'
  have hanswered := HistoryInv.answered_subscribe hinv.history.buffer 0 (h := m.history)
  refine ⟨hinv.history.subscribe 0, hinv.count.same rfl rfl rfl, hinv.accounts, ?_⟩
  refine ⟨_, List.getElem?_concat_length, rfl, ?_, ?_, fun hsome => ⟨hsome, ?_⟩⟩
  · rw [hnew]
    exact Nat.zero_le _
  · rw [hnew]
    show ReplayRest (outputs (m.history.published.take m.history.published.length)) 0
      (m.history.buffer.subscribe m.history.subscriptions.length 0).2.1
    by_cases hcovered : m.history.buffer.earliestSequence ≤ 0 + 1
    · have hchunks : (m.history.buffer.subscribe m.history.subscriptions.length 0).2.1 = _ := hanswered.chunks hcovered
      rw [hchunks]
      rfl
    · have hsnapshot : (m.history.buffer.subscribe m.history.subscriptions.length 0).2.1 =
          .snapshotRequired m.history.buffer.snapshot := if_pos (by omega)
      rw [hsnapshot, List.take_length]
      exact ⟨hinv.history.buffer.next, hinv.count.total⟩
  · show outputs (m.history.published.drop m.history.published.length) = []
    rw [List.drop_length]
    rfl

/-- What the replay tells of is the beginning of the output. -/
theorem told_append (h : TerminalHistory) (since : Nat) :
    outputs h.published = outputs (h.published.take since) ++ outputs (h.published.drop since) := by
  rw [← outputs_append, List.take_append_drop]

theorem replayedChunk (hinv : MonitorInv m) {chunk : TerminalChunk} {chunks : List TerminalChunk} {exit : Option TerminalExit}
    (hphase : m.phase = .replaying id (.chunks (chunk :: chunks)) exit) (accepted : Bool) :
    MonitorInv { m with
      recorder := m.recorder.observeChunk accepted chunk
      phase := .replaying id (.chunks chunks) exit } := by
  have hphase' := hinv.phase
  rw [hphase] at hphase'
  obtain ⟨sub, hget, hreceived, hlast, hrest, hexited⟩ := hphase'
  have htold : chunk :: chunks = (outputs (m.history.published.take sub.since)).drop m.recorder.observation.lastSequence := hrest
  have hlt : m.recorder.observation.lastSequence < (outputs (m.history.published.take sub.since)).length := by
    have hlength := congrArg List.length htold
    rw [List.length_cons, List.length_drop] at hlength
    omega
  rw [List.drop_eq_getElem_cons hlt] at htold
  obtain ⟨hchunk, hchunks⟩ := List.cons.inj htold
  have hchunk' : (outputs m.history.published)[m.recorder.observation.lastSequence]? = some chunk := by
    rw [told_append m.history sub.since, List.getElem?_append_left hlt, List.getElem?_eq_getElem hlt, hchunk]
  obtain ⟨haccounts, hnext⟩ := hinv.accounts.observeChunk hinv.history.buffer.numbered hchunk' accepted
  refine ⟨hinv.history, hinv.count, haccounts, sub, hget, hreceived, ?_, ?_, hexited⟩
  · rw [hnext]
    exact hlt
  · rw [hnext]
    exact hchunks

theorem replayedSnapshot (hinv : MonitorInv m) {snapshot : TerminalSnapshot} {exit : Option TerminalExit}
    (hphase : m.phase = .replaying id (.snapshotRequired snapshot) exit) (accepted : Bool) :
    MonitorInv { m with
      recorder := m.recorder.observeSnapshot accepted snapshot
      phase := .replaying id (.chunks []) exit } := by
  have hphase' := hinv.phase
  rw [hphase] at hphase'
  obtain ⟨sub, hget, hreceived, hlast, ⟨hnext, htotal⟩, hexited⟩ := hphase'
  have hsplit := told_append m.history sub.since
  have hlength : (outputs (m.history.published.take sub.since)).length ≤ (outputs m.history.published).length := by
    rw [hsplit, List.length_append]
    exact Nat.le_add_right _ _
  have htake : (outputs m.history.published).take (outputs (m.history.published.take sub.since)).length =
      outputs (m.history.published.take sub.since) := by
    conv_lhs => rw [hsplit, List.take_left]
  obtain ⟨haccounts, hlast'⟩ :=
    hinv.accounts.catchUp hlength hlast hnext (by rw [htake]; exact htotal) accepted
  refine ⟨hinv.history, hinv.count, haccounts, sub, hget, hreceived, hlast'.le, ?_, hexited⟩
  show [] = (outputs (m.history.published.take sub.since)).drop _
  rw [hlast', List.drop_length]

/-- The replay is over. -/
theorem replayed (hinv : MonitorInv m) {exit : Option TerminalExit} (hphase : m.phase = .replaying id (.chunks []) exit) :
    MonitorInv { m with phase := .watching id } ∧ (exit.isSome → m.history.buffer.exit.isSome ∧
      m.recorder.observation.lastSequence = (outputs m.history.published).length) := by
  have hphase' := hinv.phase
  rw [hphase] at hphase'
  obtain ⟨sub, hget, hreceived, hlast, hrest, hexited⟩ := hphase'
  have hall : m.recorder.observation.lastSequence = (outputs (m.history.published.take sub.since)).length := by
    have hle := List.drop_eq_nil_iff.mp hrest.symm
    omega
  refine ⟨⟨hinv.history, hinv.count, hinv.accounts, sub, hget, ?_⟩, fun hsome => ?_⟩
  · rw [hreceived, List.append_nil]
    exact hall
  · obtain ⟨hsome', hnil⟩ := hexited hsome
    rw [hall, told_append m.history sub.since, hnil, List.append_nil]
    exact ⟨hsome', rfl⟩

/-- With all output seen and the process exited the monitor is done. -/
theorem finalize (hinv : MonitorInv m) (hexit : m.history.buffer.exit.isSome)
    (hlast : m.recorder.observation.lastSequence = (outputs m.history.published).length) (accepted : Bool) :
    MonitorInv { m with recorder := m.recorder.flushObservationIfNeeded accepted true, phase := .finalized } :=
  ⟨hinv.history, hinv.count, hinv.accounts.flush, hexit, (flush_lastSequence _ _ _).trans hlast, flush_force_pending⟩

/-- The monitor takes an event from its channel. -/
theorem received (hinv : MonitorInv m) (hphase : m.phase = .watching id) {event : TerminalEvent} {queue : List TerminalEvent}
    (hchannel : m.history.buffer.channels id = ⟨event :: queue, true⟩) (accepted : Bool) :
    MonitorInv (({ m with history := m.history.receive id } : MonitoredTerminal).handle accepted event) := by
  have hphase' := hinv.phase
  rw [hphase] at hphase'
  obtain ⟨sub, hget, hlast⟩ := hphase'
  have hreceive : m.history.receive id = { m.history.setChannel id ⟨queue, true⟩ with
      subscriptions := m.history.subscriptions.modify id fun sub => { sub with received := sub.received ++ [event] } } := by
    unfold TerminalHistory.receive
    rw [hchannel]
  have hpublished := receive_published m.history id
  have hhistory := hinv.history.receive id
  have hcount : CountSound (m.history.receive id) := hinv.count.same hpublished.1 hpublished.2.1 hpublished.2.2
  have hsub : (m.history.receive id).subscriptions[id]? = some { sub with received := sub.received ++ [event] } := by
    rw [hreceive]
    show (m.history.subscriptions.modify id _)[id]? = _
    rw [List.getElem?_modify_eq, hget]
    rfl
  have haccounts : Accounts (outputs (m.history.receive id).published) m.recorder := by
    rw [hpublished.1]
    exact hinv.accounts
  obtain ⟨later, hsplit⟩ := hinv.published_split hget
  have hdelivered : m.history.delivered id sub = sub.received ++ event :: queue := by
    unfold TerminalHistory.delivered
    rw [hchannel]
  rw [hdelivered, List.append_assoc, List.append_assoc, ← List.append_assoc] at hsplit
  have hnow : ∀ last, last = (outputs (m.history.published.take sub.since ++ sub.received)).length +
      (outputs [event]).length → last = (outputs ((m.history.receive id).published.take sub.since ++
        (sub.received ++ [event]))).length := by
    rintro last rfl
    rw [hpublished.1, ← List.append_assoc, @outputs_append _ [event], List.length_append]
  cases event with
  | output chunk =>
      have hchunk : (outputs (m.history.receive id).published)[m.recorder.observation.lastSequence]? = some chunk := by
        rw [hpublished.1, hsplit, outputs_append, hlast, List.getElem?_append_right (Nat.le_refl _), Nat.sub_self]
        rfl
      obtain ⟨haccounts', hnext⟩ := haccounts.observeChunk hhistory.buffer.numbered hchunk accepted
      refine ⟨hhistory, hcount, haccounts', ?_⟩
      show PhaseInv _ _ m.phase
      rw [hphase]
      exact ⟨_, hsub, hnow _ (hnext.trans (congrArg (· + 1) hlast))⟩
  | exited exit =>
      have hnil : outputs (queue ++ later) = [] := hinv.count.exited _ exit _ hsplit
      have hall : m.recorder.observation.lastSequence = (outputs (m.history.receive id).published).length := by
        have hexited : outputs (.exited exit :: (queue ++ later)) = outputs (queue ++ later) := rfl
        rw [hpublished.1, hsplit, outputs_append, hlast]
        show _ = (_ ++ outputs (.exited exit :: (queue ++ later))).length
        rw [hexited, hnil, List.append_nil]
      have hexit : (m.history.receive id).buffer.exit.isSome := by
        rw [hpublished.2.1]
        refine Option.isSome_iff_ne_none.mpr fun hnone => hinv.count.running hnone exit ?_
        rw [hsplit]
        exact List.mem_append_right _ List.mem_cons_self
      exact ⟨hhistory, hcount, haccounts.flush, hexit, (flush_lastSequence _ _ _).trans hall, flush_force_pending⟩
  | fault message =>
      refine ⟨hhistory, hcount, haccounts, ?_⟩
      show PhaseInv _ _ m.phase
      rw [hphase]
      exact ⟨_, hsub, hnow _ hlast⟩

/-- The channel is gone: the snapshot tells the rest. -/
theorem lost (hinv : MonitorInv m) (accepted : Bool) : MonitorInv (m.lost accepted) := by
  have htotal : m.history.buffer.snapshot.totalBytes =
      min (replaySize ((outputs m.history.published).take (outputs m.history.published).length)) maxU64 := by
    rw [List.take_length]
    exact hinv.count.total
  have hnext : m.history.buffer.snapshot.nextSequence = (outputs m.history.published).length + 1 :=
    hinv.history.buffer.next
  obtain ⟨haccounts, hlast⟩ := hinv.accounts.catchUp (Nat.le_refl _) hinv.accounts.last hnext htotal accepted
  refine ⟨hinv.history, hinv.count, haccounts, ?_⟩
  show PhaseInv m.history (m.recorder.observeSnapshot accepted m.history.buffer.snapshot)
    (if m.history.buffer.exit.isSome then .finalized else .fellBehind)
  split_ifs with hexit
  · exact ⟨hexit, hlast, flush_force_pending⟩
  · trivial

theorem monitor (hinv : MonitorInv m) (hstep : m.monitorTerminal accepted = some m') : MonitorInv m' := by
  obtain ⟨history, phase, recorder⟩ := m
  unfold MonitoredTerminal.monitorTerminal at hstep
  dsimp only at hstep
  cases phase with
  | starting =>
      obtain rfl := Option.some.inj hstep
      exact hinv.subscribed rfl
  | replaying id replay exit =>
      cases replay with
      | snapshotRequired snapshot =>
          obtain rfl := Option.some.inj hstep
          exact hinv.replayedSnapshot rfl accepted
      | chunks rest =>
          cases rest with
          | cons chunk chunks =>
              obtain rfl := Option.some.inj hstep
              exact hinv.replayedChunk rfl accepted
          | nil =>
              obtain ⟨hwatching, hexited⟩ := hinv.replayed rfl
              dsimp only at hstep
              split_ifs at hstep with hexit
              · obtain rfl := Option.some.inj hstep
                exact hinv.finalize (hexited hexit).1 (hexited hexit).2 accepted
              · obtain rfl := Option.some.inj hstep
                exact hwatching
  | watching id =>
      dsimp only at hstep
      cases hchannel : history.buffer.channels id with
      | mk queue receiver =>
          rw [hchannel] at hstep
          cases receiver with
          | false => cases queue <;> cases hstep
          | true =>
              cases queue with
              | cons event queue =>
                  obtain rfl := Option.some.inj hstep
                  exact hinv.received rfl hchannel accepted
              | nil =>
                  dsimp only at hstep
                  split_ifs at hstep
                  obtain rfl := Option.some.inj hstep
                  exact hinv.lost accepted
  | finalized | fellBehind => cases hstep

theorem step (hinv : MonitorInv m) (hstep : MonitorStep m m') : MonitorInv m' := by
  cases hstep with
  | terminal op hop => exact hinv.terminal hop
  | monitor accepted h => exact hinv.monitor h

theorem run (hinv : MonitorInv m) (hrun : Relation.ReflTransGen MonitorStep m m') : MonitorInv m' := by
  induction hrun with
  | refl => exact hinv
  | tail _ hstep ih => exact ih.step hstep

end MonitorInv

/-! ## The projector -/

section Projector

variable {D : Digests} {p : BlockProjector} {terminalId : TerminalId} {sequence bytes : Nat}

/-- The block of the terminal shows the last `stream_sequence` and the `byte_count`. -/
def ShowsOutput (D : Digests) (p : BlockProjector) (terminalId : TerminalId) (sequence bytes : Nat) : Prop :=
  ∃ block id command size generation exitCode,
    p.blocks.get? (stableBlockId D "terminal" terminalId.uuid.text) = some block ∧
      block.payload = .terminal id command size generation sequence bytes exitCode

def Observed.payload (terminalId : TerminalId) (e : Observed) : DomainEvent :=
  .terminalOutputObserved terminalId e.streamSequence e.byteCount

/-- The projector is given the events in turn. -/
def applyPayloads (D : Digests) (p : BlockProjector) (events : List EventEnvelope) : Except ProjectorError BlockProjector :=
  events.foldlM (fun p event => do
    let (p, _) ← p.applyPayload D event
    return p) p

/-- An observation of a higher sequence is not stale. -/
theorem applyPayload_observed (hshows : ShowsOutput D p terminalId sequence bytes) {e : Observed} {event : EventEnvelope}
    (hevent : event.payload = e.payload terminalId) (hlt : sequence < e.streamSequence) :
    ∃ p' operations, p.applyPayload D event = .ok (p', operations) ∧
      ShowsOutput D p' terminalId e.streamSequence (satAdd maxU64 bytes e.byteCount) := by
  obtain ⟨block, id, command, size, generation, exitCode, hget, hpayload⟩ := hshows
  have hid : block.blockId = stableBlockId D "terminal" terminalId.uuid.text := Keyed.key_eq_of_get? hget
  have hkind : ∀ payload, p.kindAt { block with payload }.blockId = some { block with payload }.kind := by
    intro payload
    unfold BlockProjector.kindAt
    dsimp only
    rw [hid, hget]
    rfl
  have happly : p.applyPayload D event = p.upsertOne { block with
      payload := .terminal id command size generation e.streamSequence (satAdd maxU64 bytes e.byteCount) exitCode }
      event.sequence := by
    unfold BlockProjector.applyPayload
    rw [hevent]
    simp only [Observed.payload, hget, okOr, bind, Except.bind, hpayload]
    exact if_neg (Nat.not_le.mpr hlt)
  obtain ⟨p', operations, hup⟩ : ∃ p' operations, p.upsertOne { block with
      payload := .terminal id command size generation e.streamSequence (satAdd maxU64 bytes e.byteCount) exitCode }
      event.sequence = .ok (p', operations) := BlockProjector.upsertOne_accepted (Or.inr (hkind _)) event.sequence
  obtain ⟨-, filed, hfiled, -, hpayload', rfl⟩ := BlockProjector.upsertOne_eq_ok hup
  refine ⟨_, operations, happly.trans hup, filed, id, command, size, generation, exitCode, ?_, hpayload'⟩
  show (p.blocks.put filed).get? _ = some filed
  rw [Keyed.get?_put, hfiled, hid, if_pos rfl]

/-- Observations of increasing sequences are accepted one after another, and the block shows their sum. -/
theorem applyPayloads_observed {recorded : List Observed} {events : List EventEnvelope}
    (hshows : ShowsOutput D p terminalId sequence bytes)
    (hevents : events.map EventEnvelope.payload = recorded.map (Observed.payload terminalId))
    (hincreasing : recorded.Pairwise fun earlier later => earlier.streamSequence < later.streamSequence)
    (hlower : ∀ e ∈ recorded, sequence < e.streamSequence) (hbound : bytes ≤ maxU64) :
    ∃ p' sequence', applyPayloads D p events = .ok p' ∧
      ShowsOutput D p' terminalId sequence' (satAdd maxU64 bytes (recorded.map Observed.byteCount).sum) := by
  induction recorded generalizing events p sequence bytes with
  | nil =>
      obtain rfl := List.map_eq_nil_iff.mp hevents
      have hbytes : satAdd maxU64 bytes 0 = bytes := satAdd_eq_add hbound
      exact ⟨p, sequence, rfl, by rw [List.map_nil, List.sum_nil, hbytes]; exact hshows⟩
  | cons e recorded ih =>
      obtain ⟨event, events, rfl⟩ := List.exists_cons_of_ne_nil (l := events) (by rintro rfl; cases hevents)
      rw [List.map_cons, List.map_cons, List.cons.injEq] at hevents
      obtain ⟨p₁, operations, happly, hshows₁⟩ := applyPayload_observed hshows hevents.1 (hlower e List.mem_cons_self)
      obtain ⟨hhead, htail⟩ := List.pairwise_cons.mp hincreasing
      obtain ⟨p', sequence', hrest, hshows'⟩ := ih hshows₁ hevents.2 htail hhead satAdd_le_top
      refine ⟨p', sequence', ?_, ?_⟩
      · unfold applyPayloads
        rw [List.foldlM_cons, happly]
        exact hrest
      · rw [satAdd_satAdd, ← List.sum_cons, ← List.map_cons] at hshows'
        exact hshows'

end Projector

/-! ## Every run -/

/-- What is recorded of the output. -/
structure OutputRecordSound (m : MonitoredTerminal) : Prop where
  /-- No byte of the chunks up to `last_sequence` is counted twice. -/
  once : m.recorder.recordedTotal + m.recorder.observation.pendingBytes ≤
    replaySize ((outputs m.history.published).take m.recorder.observation.lastSequence)
  /-- In the arithmetic of the counters, and as plain numbers while `total_bytes` has not stopped. -/
  total : satAdd maxU64 m.recorder.observation.recordedBytes m.recorder.observation.pendingBytes ≤
      m.history.buffer.totalBytes ∧
    (replaySize (outputs m.history.published) ≤ maxU64 →
      m.recorder.observation.recordedBytes + m.recorder.observation.pendingBytes ≤ m.history.buffer.totalBytes)
  increasing : m.recorder.recorded.Pairwise fun earlier later => earlier.streamSequence < later.streamSequence
  /-- A projector that shows a terminal without output takes what is recorded. -/
  projected : ∀ D p terminalId events, ShowsOutput D p terminalId 0 0 →
    events.map EventEnvelope.payload = m.recorder.recorded.map (Observed.payload terminalId) →
    ∃ p' sequence, applyPayloads D p events = .ok p' ∧
      ShowsOutput D p' terminalId sequence (min m.recorder.recordedTotal maxU64)
  finalized : m.phase = .finalized → m.recorder.failed = false →
    min m.recorder.recordedTotal maxU64 = m.history.buffer.totalBytes ∧
      (replaySize (outputs m.history.published) ≤ maxU64 → m.recorder.recordedTotal = m.history.buffer.totalBytes)

theorem MonitorInv.sound {m : MonitoredTerminal} (hinv : MonitorInv m) : OutputRecordSound m := by
  have hbytes := hinv.accounts.bytes
  have htotal := hinv.count.total
  have hseen := replaySize_take_le (outputs m.history.published) m.recorder.observation.lastSequence
  have hcounted : satAdd maxU64 m.recorder.observation.recordedBytes m.recorder.observation.pendingBytes =
      min (replaySize ((outputs m.history.published).take m.recorder.observation.lastSequence)) maxU64 := by
    rw [hinv.accounts.recordedBytes, satAdd_min_left]
    exact hinv.accounts.accounted
  refine ⟨hbytes, ⟨?_, fun hsmall => ?_⟩, hinv.accounts.increasing, ?_, fun hfinal haccepted => ?_⟩
  · rw [hcounted, htotal]
    omega
  · rw [hinv.accounts.recordedBytes, htotal]
    omega
  · intro D p terminalId events hshows hevents
    obtain ⟨p', sequence, happly, hshows'⟩ := applyPayloads_observed hshows hevents hinv.accounts.increasing
      (fun e he => (hinv.accounts.recorded e he).1) (Nat.zero_le _)
    refine ⟨p', sequence, happly, ?_⟩
    unfold satAdd at hshows'
    rw [Nat.zero_add] at hshows'
    exact hshows'
  · have hphase := hinv.phase
    rw [hfinal] at hphase
    obtain ⟨-, hlast, hpending⟩ := hphase
    have haccounted := hinv.accounts.accounted
    rw [hpending haccepted, hlast, List.take_length] at haccounted
    unfold satAdd at haccounted
    rw [hlast, List.take_length] at hbytes
    rw [htotal]
    constructor
    · omega
    · intro hsmall
      omega

/-- **Main result.** However output, overflows of the channel and failing appends come, no byte is recorded twice: what is
recorded and pending is at most `total_bytes`, the recorded sequences increase, so that the projector takes them, and a
monitor that finalizes its terminal without a failed append has recorded all of it. -/
theorem outputObservation_sound (terminalId : TerminalId) (replayBytes transcriptTailBytes : Nat) {m : MonitoredTerminal}
    (hrun : Relation.ReflTransGen MonitorStep (.start terminalId replayBytes transcriptTailBytes) m) :
    OutputRecordSound m := ((MonitorInv.start _ _ _).run hrun).sound

/-- Two bytes, then the exit. -/
theorem outputObservation_sound_exited :
    ∃ m, Relation.ReflTransGen MonitorStep (.start ⟨0⟩ 8 8) m ∧ m.phase = .finalized ∧
      m.recorder.recorded = [⟨1, 2⟩] ∧ OutputRecordSound m := by
  have hrun : ∃ m, Relation.ReflTransGen MonitorStep (.start ⟨0⟩ 8 8) m ∧ m.phase = .finalized ∧
      m.recorder.recorded = [⟨1, 2⟩] :=
    ⟨_, .tail (.tail (.tail (.tail (.tail (.tail .refl
      (.monitor true rfl)) (.monitor true rfl)) (.terminal (.publishOutput [1, 2]) rfl)) (.monitor true rfl))
      (.terminal (.publishExit ⟨some 0, none⟩) trivial)) (.monitor true rfl), rfl, rfl⟩
  obtain ⟨m, hsteps, hphase, hrecorded⟩ := hrun
  exact ⟨m, hsteps, hphase, hrecorded, outputObservation_sound _ _ _ hsteps⟩

end HyperTerm.Daemon
