import HyperTerm.Lib.Lines
import HyperTerm.Lib.Result
import HyperTerm.Protocol.Event

/-!
# The event journal

`JsonlJournal` keeps the events in memory and appends each to a file, one JSON line an event.

* `JsonlJournal.appendEnvelope` : one append, with the point at which its I/O stops;
* `readExisting` : what opening the file again reads;
* `readLoop_append`, `readLoop_line` : a file that reads well, and one more line of it.
-/

namespace HyperTerm.Core
open HyperTerm.Protocol HyperTerm.Lib

def maxEventLineBytes : Nat := 1024 * 1024

inductive JournalError where
  | io
  | json
  | invalidEvent (message : String)
  | eventTooLarge (bytes : Nat)
  | blankLine
  | tornTail
  | sequenceGap (expected actual : Nat)
  | clockBeforeUnixEpoch
  | timestampOverflow
  deriving DecidableEq

structure JsonlJournal where
  file : List UInt8
  events : List EventEnvelope

/-- Where the I/O of one append stops: nowhere, inside the body, inside the newline, or at the two calls
that follow the writes. -/
inductive AppendIo where
  | done
  | bodyTorn (n : Nat)
  | newlineTorn (n : Nat)
  | flushFailed
  | syncFailed
  deriving DecidableEq

/-- The bytes that an append of an encoded event leaves at the end of the file. -/
def AppendIo.written (encoded : List UInt8) : AppendIo → List UInt8
  | .bodyTorn n => encoded.take n
  | .newlineTorn n => encoded ++ [newline].take n
  | .done | .flushFailed | .syncFailed => encoded ++ [newline]

variable (C : LineCodec EventEnvelope)

namespace JsonlJournal

def lastSequence (j : JsonlJournal) : Nat := j.events.getLast?.elim 0 EventEnvelope.sequence

/-- The envelope of a new event; the clock may refuse, and the event id is drawn at random. -/
def prepare (j : JsonlJournal) (clock : Except JournalError Nat) (eventId : EventId) (event : NewEvent) :
    Except JournalError EventEnvelope := do
  let recordedAtMs ← clock
  return {
    schemaVersion := eventSchemaVersion
    sequence := j.lastSequence + 1
    eventId
    recordedAtMs
    taskId := event.taskId
    runId := event.runId
    operationId := event.operationId
    causationId := event.causationId
    correlationId := event.correlationId
    payload := event.payload }

/-- The checks of an append, up to the bytes to be written. -/
def encodeLine (j : JsonlJournal) (envelope : EventEnvelope) : Except JournalError (List UInt8) :=
  match envelope.validate with
  | .error message => .error (.invalidEvent message)
  | .ok () =>
      if envelope.sequence ≠ j.lastSequence + 1 then
        .error (.sequenceGap (j.lastSequence + 1) envelope.sequence)
      else if maxEventLineBytes < (C.encode envelope).length then
        .error (.eventTooLarge (C.encode envelope).length)
      else .ok (C.encode envelope)

def appendEnvelope (j : JsonlJournal) (envelope : EventEnvelope) (io : AppendIo) :
    JsonlJournal × Except JournalError EventEnvelope :=
  match j.encodeLine C envelope with
  | .error e => (j, .error e)
  | .ok encoded =>
      if io = .done then
        ({ file := j.file ++ io.written encoded, events := j.events ++ [envelope] }, .ok envelope)
      else ({ j with file := j.file ++ io.written encoded }, .error .io)

end JsonlJournal

/-- One line of the file, newline included. -/
def readLine (expected : Nat) (line : List UInt8) : Except JournalError EventEnvelope :=
  if maxEventLineBytes + 1 < line.length then .error (.eventTooLarge line.length)
  else if line.getLast? ≠ some newline then .error .tornTail
  else if line.dropLast = [] then .error .blankLine
  else
    match C.decode line.dropLast with
    | none => .error .json
    | some event =>
        match event.validate with
        | .error message => .error (.invalidEvent message)
        | .ok () =>
            if event.sequence ≠ expected then .error (.sequenceGap expected event.sequence)
            else .ok event

def readLoop (expected : Nat) (bytes : List UInt8) : Except JournalError (List EventEnvelope) :=
  if h : bytes = [] then .ok []
  else do
    let event ← readLine C expected (takeLine bytes).1
    let events ← readLoop (expected + 1) (takeLine bytes).2
    return event :: events
termination_by bytes.length
decreasing_by exact takeLine_rest_lt h

def readExisting (file : List UInt8) : Except JournalError (List EventEnvelope) := readLoop C 1 file

def JsonlJournal.open (file : List UInt8) : Except JournalError JsonlJournal := do
  let events ← readExisting C file
  return { file, events }

variable {C}

/-! ## Appending -/

namespace JsonlJournal

variable {j : JsonlJournal} {envelope : EventEnvelope}

theorem encodeLine_eq_ok {encoded : List UInt8} :
    j.encodeLine C envelope = .ok encoded ↔
      envelope.schemaVersion = eventSchemaVersion ∧ envelope.sequence = j.lastSequence + 1 ∧
        (C.encode envelope).length ≤ maxEventLineBytes ∧ encoded = C.encode envelope := by
  unfold encodeLine
  cases hv : envelope.validate with
  | error message =>
      simp only [reduceCtorEq, false_iff]
      rintro ⟨hs, hq, -⟩
      rw [EventEnvelope.validate_eq_ok.mpr ⟨hs, by omega⟩] at hv
      exact nomatch hv
  | ok _ =>
      obtain ⟨hs, -⟩ := EventEnvelope.validate_eq_ok.mp hv
      dsimp only
      split_ifs with hq hl
      · exact ⟨fun h => (nomatch h), fun h => absurd h.2.1 hq⟩
      · exact ⟨fun h => (nomatch h), fun h => absurd h.2.2.1 (by omega)⟩
      · rw [Except.ok.injEq]
        exact ⟨fun h => ⟨hs, not_not.mp hq, by omega, h.symm⟩, fun h => h.2.2.2.symm⟩

theorem prepare_sequence {clock : Except JournalError Nat} {eventId : EventId} {event : NewEvent}
    (h : j.prepare clock eventId event = .ok envelope) : envelope.sequence = j.lastSequence + 1 := by
  simp only [prepare, bind_eq_ok, pure_eq_ok] at h
  obtain ⟨_, -, rfl⟩ := h
  rfl

theorem lastSequence_append_done :
    lastSequence { j with events := j.events ++ [envelope] } = envelope.sequence := by
  simp [lastSequence]

end JsonlJournal

/-! ## Reading -/

theorem readLine_line {expected : Nat} {e : EventEnvelope} (hlen : (C.encode e).length ≤ maxEventLineBytes)
    (hv : e.validate = .ok ()) :
    readLine C expected (C.encode e ++ [newline]) =
      if e.sequence ≠ expected then .error (.sequenceGap expected e.sequence) else .ok e := by
  have h1 : ¬ maxEventLineBytes + 1 < (C.encode e ++ [newline]).length := by
    rw [List.length_append, List.length_singleton]
    omega
  have h2 : (C.encode e ++ [newline]).getLast? = some newline := by simp
  simp only [readLine, if_neg h1, h2, ne_eq, not_true_eq_false, if_false, List.dropLast_concat,
    if_neg (C.encode_ne_nil e), C.decode_encode, hv]

theorem readLine_eq_ok_getLast? {expected : Nat} {line : List UInt8} {e : EventEnvelope}
    (h : readLine C expected line = .ok e) : line.getLast? = some newline ∧ e.sequence = expected := by
  unfold readLine at h
  split_ifs at h with _ hlast _
  refine ⟨not_not.mp hlast, ?_⟩
  split at h
  · exact nomatch h
  · split at h
    · exact nomatch h
    · split_ifs at h with hseq
      obtain rfl := Except.ok.inj h
      exact not_not.mp hseq

theorem readLoop_nil (expected : Nat) : readLoop C expected [] = .ok [] := by
  unfold readLoop
  rfl

theorem readLoop_of_ne_nil {expected : Nat} {bytes : List UInt8} (h : bytes ≠ []) :
    readLoop C expected bytes = (do
      let event ← readLine C expected (takeLine bytes).1
      let events ← readLoop C (expected + 1) (takeLine bytes).2
      return event :: events) := by
  conv_lhs => unfold readLoop
  rw [dif_neg h]

/-- A file that reads well is read on from where it ended. -/
theorem readLoop_append {expected : Nat} {bytes more : List UInt8} {events : List EventEnvelope}
    (h : readLoop C expected bytes = .ok events) :
    readLoop C expected (bytes ++ more) = (events ++ ·) <$> readLoop C (expected + events.length) more := by
  induction hn : bytes.length using Nat.strong_induction_on generalizing bytes expected events with
  | _ n ih =>
    by_cases hnil : bytes = []
    · subst hnil
      rw [readLoop_nil] at h
      obtain rfl := Except.ok.inj h
      rw [List.nil_append, List.length_nil, Nat.add_zero]
      cases readLoop C expected more <;> rfl
    · rw [readLoop_of_ne_nil hnil] at h
      simp only [bind_eq_ok, pure_eq_ok] at h
      obtain ⟨e, he, es, hes, rfl⟩ := h
      have hlast := (readLine_eq_ok_getLast? he).1
      rw [readLoop_of_ne_nil (by simp [hnil]), takeLine_append_of_complete hlast, he]
      have hrest := ih _ (hn ▸ takeLine_rest_lt hnil) hes rfl
      simp only [bind, Except.bind, hrest, List.length_cons, Nat.add_assoc, Nat.add_comm 1]
      cases readLoop C (expected + (es.length + 1)) more <;> rfl

theorem readLoop_line {expected : Nat} {e : EventEnvelope} {rest : List UInt8}
    (hlen : (C.encode e).length ≤ maxEventLineBytes) (hv : e.validate = .ok ()) :
    readLoop C expected (C.encode e ++ newline :: rest) =
      if e.sequence ≠ expected then .error (.sequenceGap expected e.sequence)
      else (e :: ·) <$> readLoop C (expected + 1) rest := by
  rw [readLoop_of_ne_nil (by simp), takeLine_append (C.newline_notMem e), readLine_line hlen hv]
  split_ifs with h
  · rfl
  · simp only [bind, Except.bind]
    cases readLoop C (expected + 1) rest <;> rfl

/-- The events of a file carry consecutive sequence numbers. -/
def Contiguous : Nat → List EventEnvelope → Prop
  | _, [] => True
  | expected, e :: events => e.sequence = expected ∧ Contiguous (expected + 1) events

theorem contiguous_append {expected : Nat} {events more : List EventEnvelope} :
    Contiguous expected (events ++ more) ↔
      Contiguous expected events ∧ Contiguous (expected + events.length) more := by
  induction events generalizing expected with
  | nil => simp [Contiguous]
  | cons e events ih =>
      simp only [List.cons_append, Contiguous, ih, List.length_cons, Nat.add_assoc, Nat.add_comm 1, and_assoc]

theorem readLoop_contiguous {expected : Nat} {bytes : List UInt8} {events : List EventEnvelope}
    (h : readLoop C expected bytes = .ok events) : Contiguous expected events := by
  induction events generalizing bytes expected with
  | nil => trivial
  | cons e es ih =>
      by_cases hnil : bytes = []
      · subst hnil
        rw [readLoop_nil] at h
        exact nomatch h
      · rw [readLoop_of_ne_nil hnil] at h
        simp only [bind_eq_ok, pure_eq_ok, List.cons.injEq] at h
        obtain ⟨e', he, es', hes, rfl, rfl⟩ := h
        exact ⟨(readLine_eq_ok_getLast? he).2, ih hes⟩

/-- A journal whose events are numbered from one has as many events as its last sequence number. -/
theorem JsonlJournal.lastSequence_of_contiguous {j : JsonlJournal} (h : Contiguous 1 j.events) :
    j.lastSequence = j.events.length := by
  rcases List.eq_nil_or_concat j.events with hnil | ⟨events, e, hcons⟩
  · simp [lastSequence, hnil]
  · rw [List.concat_eq_append] at hcons
    rw [hcons, contiguous_append] at h
    simp only [lastSequence, hcons, List.getLast?_concat, Option.elim_some, List.length_append,
      List.length_singleton, h.2.1, Nat.add_comm 1]

end HyperTerm.Core
