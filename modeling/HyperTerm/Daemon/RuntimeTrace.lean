import HyperTerm.Daemon.Operations
import HyperTerm.Lib.InPlace
import HyperTerm.Lib.Keyed
import HyperTerm.Lib.LineFile
import HyperTerm.Protocol.Json
import Mathlib.Data.String.Basic

/-!
# The runtime trace of an artifact

`ArtifactRuntimeTraceStore` keeps the events that the preview of one artifact revision reports, one JSON line an event.
A batch of inputs is checked against what the journal holds and against its own earlier inputs; what is new of it is
appended in one write.

* `prepareInput` : validation, redaction and digest of one input;
* `readEvents` : the journal is read back and checked line by line;
* `append` : one batch.

A write succeeds as a whole. JSON and SHA-256 are parameters (`TraceEncodings`).
-/

namespace HyperTerm.Daemon.RuntimeTrace
open HyperTerm.Protocol HyperTerm.Lib

def runtimeTraceSchemaVersion : Nat := 1

def legacyRuntimeTraceStorageSchemaVersion : Nat := 1

def runtimeTraceStorageSchemaVersion : Nat := 2

def maxTraceEventsPerAppend : Nat := 16

def maxTraceEventsProjected : Nat := 256

def maxTraceJournalBytes : Nat := 4 * 1024 * 1024

def maxTraceEventBytes : Nat := 32 * 1024

def maxTraceNameBytes : Nat := 128

def maxTraceValueDepth : Nat := 8

def maxTraceValueNodes : Nat := 256

def maxTraceStringBytes : Nat := 2048

def redactedValue : String := "[REDACTED]"

inductive RuntimeTraceStoreError where
  | invalidPath
  | invalidEvent
  | contextMismatch
  | unsupportedStorageSchema (version : Nat)
  | storedEventDigestMismatch
  | tornJournal
  | tooLarge
  | sequenceConflict
  | sequenceGap (expected actual : Nat)
  | sequenceOverflow
  | clock
  | json
  deriving DecidableEq

/-! ## Events -/

inductive GenUiRuntimeTraceKind where
  | action
  | checkpoint
  | effectReceipt
  | console
  | error
  deriving DecidableEq

/-- The name of a kind in JSON. -/
def GenUiRuntimeTraceKind.name : GenUiRuntimeTraceKind → String
  | .action => "action"
  | .checkpoint => "checkpoint"
  | .effectReceipt => "effect_receipt"
  | .console => "console"
  | .error => "error"

structure GenUiRuntimeTraceInput where
  schemaVersion : Nat
  streamId : Uuid
  clientSequence : Nat
  kind : GenUiRuntimeTraceKind
  name : String
  payload : Value

structure GenUiRuntimeTraceEvent where
  schemaVersion : Nat
  eventSequence : Nat
  artifactId : ArtifactId
  sourceRevision : Nat
  streamId : Uuid
  clientSequence : Nat
  kind : GenUiRuntimeTraceKind
  name : String
  payload : Value
  payloadDigest : String
  redacted : Bool
  recordedAtMs : Nat

structure StoredRuntimeTraceEvent where
  storageSchemaVersion : Nat
  taskId : TaskId
  eventDigest : Option String
  event : GenUiRuntimeTraceEvent

structure GenUiRuntimeTraceProjection where
  artifactId : ArtifactId
  sourceRevision : Nat
  projectionDigest : String
  events : List GenUiRuntimeTraceEvent

/-- What `trace_digest` is a digest of. -/
structure TraceContent where
  streamId : Uuid
  clientSequence : Nat
  kind : GenUiRuntimeTraceKind
  name : String
  payload : Value

/-- `serde_json` and SHA-256: the lines of the journal, the canonical bytes of the three digests, and the digest in
lower-case hexadecimal. -/
structure TraceEncodings where
  lines : LineCodec StoredRuntimeTraceEvent
  traceBytes : TraceContent → List UInt8
  storedBytes : TaskId → GenUiRuntimeTraceEvent → List UInt8
  projectionBytes : Nat → List GenUiRuntimeTraceEvent → List UInt8
  sha256 : List UInt8 → String
  isSha256_sha256 : ∀ bytes, isSha256 (sha256 bytes) = true

variable (E : TraceEncodings)

def traceDigest (content : TraceContent) : String := E.sha256 (E.traceBytes content)

def storedEventDigest (taskId : TaskId) (event : GenUiRuntimeTraceEvent) : String :=
  E.sha256 (E.storedBytes taskId event)

def replayProjectionDigest (sourceRevision : Nat) (events : List GenUiRuntimeTraceEvent) : String :=
  E.sha256 (E.projectionBytes sourceRevision
    (events.filter fun event => event.kind = .action ∨ event.kind = .checkpoint ∨ event.kind = .effectReceipt))

/-- `StoredRuntimeTraceEvent::new`. -/
def StoredRuntimeTraceEvent.new (taskId : TaskId) (event : GenUiRuntimeTraceEvent) : StoredRuntimeTraceEvent where
  storageSchemaVersion := runtimeTraceStorageSchemaVersion
  taskId := taskId
  eventDigest := some (storedEventDigest E taskId event)
  event := event

def GenUiRuntimeTraceEvent.content (event : GenUiRuntimeTraceEvent) : TraceContent where
  streamId := event.streamId
  clientSequence := event.clientSequence
  kind := event.kind
  name := event.name
  payload := event.payload

/-! ## Preparing an input -/

def sensitiveWords : List String :=
  ["authorization", "cookie", "credential", "password", "secret", "token", "api_key", "private_key", "environment", "env"]

def sensitiveKey (key : String) : Bool :=
  let normalized := key.toList.map fun c => if c.toLower = '-' then '_' else c.toLower
  sensitiveWords.any fun candidate =>
    normalized = candidate.toList || ('_' :: candidate.toList).isSuffixOf normalized

/-- The two values that `sanitize_value` counts and notes in. -/
structure Sanitizing where
  nodes : Nat
  redacted : Bool

mutual

/-- The members of an object are put in the order of their keys, by way of a `BTreeMap`. -/
def sanitizeValue (depth : Nat) (s : Sanitizing) : Value → Except RuntimeTraceStoreError (Value × Sanitizing)
  | .null => do
      let s ← visit depth s
      return (.null, s)
  | .bool b => do
      let s ← visit depth s
      return (.bool b, s)
  | .number n => do
      let s ← visit depth s
      return (.number n, s)
  | .string text => do
      let s ← visit depth s
      if maxTraceStringBytes < text.utf8ByteSize then .error .tooLarge else return (.string text, s)
  | .array items => do
      let s ← visit depth s
      let (items, s) ← sanitizeItems depth s items
      return (.array items, s)
  | .object members => do
      let s ← visit depth s
      let (members, s) ← sanitizeMembers depth s members
      return (.object (sortByKey Prod.fst members), s)
where
  visit (depth : Nat) (s : Sanitizing) : Except RuntimeTraceStoreError Sanitizing :=
    if maxTraceValueDepth < depth ∨ maxTraceValueNodes < s.nodes + 1 then .error .tooLarge
    else .ok { s with nodes := s.nodes + 1 }

def sanitizeItems (depth : Nat) (s : Sanitizing) : List Value → Except RuntimeTraceStoreError (List Value × Sanitizing)
  | [] => .ok ([], s)
  | value :: items => do
      let (value, s) ← sanitizeValue (depth + 1) s value
      let (items, s) ← sanitizeItems depth s items
      return (value :: items, s)

def sanitizeMembers (depth : Nat) (s : Sanitizing) :
    List (String × Value) → Except RuntimeTraceStoreError (List (String × Value) × Sanitizing)
  | [] => .ok ([], s)
  | (key, value) :: members => do
      if key.isEmpty ∨ maxTraceNameBytes < key.utf8ByteSize then .error .invalidEvent
      else if sensitiveKey key then do
        let (members, s) ← sanitizeMembers depth { s with redacted := true } members
        return ((key, .string redactedValue) :: members, s)
      else do
        let (value, s) ← sanitizeValue (depth + 1) s value
        let (members, s) ← sanitizeMembers depth s members
        return ((key, value) :: members, s)

end

def validateEffectReceipt : Value → Except RuntimeTraceStoreError Unit
  | .object members =>
      let object := Value.object members
      if (object.get "input").isNone ∨
          members.any (fun member => !(["input", "outcome", "output", "error"].contains member.1)) then
        .error .invalidEvent
      else
        match (object.get "outcome").bind Value.asStr with
        | some "succeeded" =>
            if (object.get "output").isSome ∧ (object.get "error").isNone then .ok () else .error .invalidEvent
        | some "failed" =>
            if ((object.get "error").bind Value.asStr).isSome ∧ (object.get "output").isNone then .ok ()
            else .error .invalidEvent
        | _ => .error .invalidEvent
  | _ => .error .invalidEvent

structure PreparedInput where
  content : TraceContent
  payloadDigest : String
  redacted : Bool

/-- The checks of `prepare_input` before the payload is sanitized. -/
def checkInput (input : GenUiRuntimeTraceInput) : Except RuntimeTraceStoreError Unit :=
  if input.schemaVersion ≠ runtimeTraceSchemaVersion ∨ input.streamId = 0 ∨ input.clientSequence = 0 ∨
      input.name.isEmpty ∨ maxTraceNameBytes < input.name.utf8ByteSize ∨
      input.name.toList.any (fun c => c.toNat = 0 || c = '\n' || c = '\r') then
    .error .invalidEvent
  else if input.kind = .effectReceipt then validateEffectReceipt input.payload
  else .ok ()

def prepareInput (input : GenUiRuntimeTraceInput) : Except RuntimeTraceStoreError PreparedInput := do
  checkInput input
  let (payload, s) ← sanitizeValue 0 ⟨0, false⟩ input.payload
  let content := ⟨input.streamId, input.clientSequence, input.kind, input.name, payload⟩
  if maxTraceEventBytes < (E.traceBytes content).length then .error .tooLarge
  else .ok ⟨content, traceDigest E content, s.redacted⟩

/-! ## Reading the journal -/

/-- The task, the artifact and the revision of a call. -/
structure TraceKey where
  taskId : TaskId
  artifactId : ArtifactId
  sourceRevision : Nat
  deriving DecidableEq

def migrateStoredEvent (stored : StoredRuntimeTraceEvent) :
    Except RuntimeTraceStoreError (StoredRuntimeTraceEvent × Bool) :=
  let expected := storedEventDigest E stored.taskId stored.event
  if stored.storageSchemaVersion = legacyRuntimeTraceStorageSchemaVersion ∧ stored.eventDigest = none then
    .ok ({ stored with storageSchemaVersion := runtimeTraceStorageSchemaVersion, eventDigest := some expected }, true)
  else if stored.storageSchemaVersion = runtimeTraceStorageSchemaVersion ∧ stored.eventDigest = some expected then
    .ok (stored, false)
  else if stored.storageSchemaVersion = legacyRuntimeTraceStorageSchemaVersion ∨
      stored.storageSchemaVersion = runtimeTraceStorageSchemaVersion then
    .error .storedEventDigestMismatch
  else .error (.unsupportedStorageSchema stored.storageSchemaVersion)

/-- The checks of one line against the key and the event before it. -/
def BelongsTo (key : TraceKey) (lastSequence : Nat) (stored : StoredRuntimeTraceEvent) : Prop :=
  stored.taskId = key.taskId ∧ stored.event.schemaVersion = runtimeTraceSchemaVersion ∧
    stored.event.artifactId = key.artifactId ∧ stored.event.sourceRevision = key.sourceRevision ∧
    stored.event.eventSequence = lastSequence + 1 ∧ stored.event.clientSequence ≠ 0 ∧
    isSha256 stored.event.payloadDigest = true ∧ stored.event.payloadDigest = traceDigest E stored.event.content

instance (key : TraceKey) (lastSequence : Nat) (stored : StoredRuntimeTraceEvent) :
    Decidable (BelongsTo E key lastSequence stored) := inferInstanceAs (Decidable (_ ∧ _))

/-- The loop over the lines; also whether one of them was of the legacy schema. -/
def readLines (key : TraceKey) : Nat → List (List UInt8) →
    Except RuntimeTraceStoreError (List StoredRuntimeTraceEvent × Bool)
  | _, [] => .ok ([], false)
  | lastSequence, line :: lines => do
      if maxTraceEventBytes < line.length then .error .tooLarge
      else do
        let stored ← okOr (E.lines.decode line) .json
        let (stored, migrated) ← migrateStoredEvent E stored
        if ¬BelongsTo E key lastSequence stored then .error .contextMismatch
        else do
          let (events, migrationRequired) ← readLines key stored.event.eventSequence lines
          return (stored :: events, migrated || migrationRequired)

/-- The journal of the artifact, if it exists. -/
abbrev Tracing := InPlace (Option (List UInt8)) RuntimeTraceStoreError

def replaceEvents (events : List StoredRuntimeTraceEvent) : Tracing Unit := do
  InPlace.refuseIf (∃ event ∈ events, maxTraceEventBytes < (E.lines.encode event).length) .tooLarge
  InPlace.refuseIf (maxTraceJournalBytes < (E.lines.render events).length) .tooLarge
  modify fun _ => some (E.lines.render events)

def readEvents (key : TraceKey) : Tracing (List StoredRuntimeTraceEvent) := do
  match ← InPlace.self with
  | none => return []
  | some encoded => do
      InPlace.refuseIf (maxTraceJournalBytes < encoded.length) .invalidPath
      InPlace.refuseIf (¬WholeLines encoded) .tornJournal
      let (events, migrationRequired) ← InPlace.ofExcept (readLines E key 0 (fileLines encoded))
      if migrationRequired then replaceEvents E events else pure ()
      return events

def load (key : TraceKey) : Tracing GenUiRuntimeTraceProjection := do
  let stored ← readEvents E key
  let events := (stored.drop (stored.length - maxTraceEventsProjected)).map StoredRuntimeTraceEvent.event
  return ⟨key.artifactId, key.sourceRevision, replayProjectionDigest E key.sourceRevision events, events⟩

/-! ## Appending a batch -/

/-- `by_client`, `stream_tails` and `event_sequence`: what a new input is checked against. -/
structure TraceChecks where
  byClient : Uuid × Nat → Option String
  streamTails : Uuid → Option Nat
  eventSequence : Nat

def TraceChecks.empty : TraceChecks := ⟨fun _ => none, fun _ => none, 0⟩

def TraceChecks.add (checks : TraceChecks) (event : GenUiRuntimeTraceEvent) : TraceChecks where
  byClient := Function.update checks.byClient (event.streamId, event.clientSequence) (some event.payloadDigest)
  streamTails := Function.update checks.streamTails event.streamId
    (some ((checks.streamTails event.streamId).elim event.clientSequence (max · event.clientSequence)))
  eventSequence := event.eventSequence

/-- The checks against the events of the journal. -/
def TraceChecks.ofExisting (existing : List StoredRuntimeTraceEvent) : TraceChecks :=
  existing.foldl (fun checks stored => checks.add stored.event) .empty

/-- `checked_add(1)`. -/
def checkedSucc (n : Nat) : Except RuntimeTraceStoreError Nat :=
  if n + 1 < 2 ^ 64 then .ok (n + 1) else .error .sequenceOverflow

/-- One input: nothing if it is a replay, else the event that it becomes. `clock` is what `now_ms` says then. -/
def acceptInput (key : TraceKey) (clock : Option Nat) (checks : TraceChecks) (input : GenUiRuntimeTraceInput) :
    Except RuntimeTraceStoreError (Option StoredRuntimeTraceEvent) := do
  let prepared ← prepareInput E input
  match checks.byClient (prepared.content.streamId, prepared.content.clientSequence) with
  | some existingDigest =>
      if existingDigest = prepared.payloadDigest then return none else .error .sequenceConflict
  | none => do
      let expected ← checkedSucc ((checks.streamTails prepared.content.streamId).getD 0)
      if prepared.content.clientSequence ≠ expected then
        .error (.sequenceGap expected prepared.content.clientSequence)
      else do
        let eventSequence ← checkedSucc checks.eventSequence
        let recordedAtMs ← okOr clock .clock
        return some (.new E key.taskId {
          schemaVersion := runtimeTraceSchemaVersion
          eventSequence
          artifactId := key.artifactId
          sourceRevision := key.sourceRevision
          streamId := prepared.content.streamId
          clientSequence := prepared.content.clientSequence
          kind := prepared.content.kind
          name := prepared.content.name
          payload := prepared.content.payload
          payloadDigest := prepared.payloadDigest
          redacted := prepared.redacted
          recordedAtMs })

/-- The loop over the inputs, each with its reading of the clock. -/
def acceptInputs (key : TraceKey) (checks : TraceChecks) :
    List (GenUiRuntimeTraceInput × Option Nat) → Except RuntimeTraceStoreError (List StoredRuntimeTraceEvent)
  | [] => .ok []
  | (input, clock) :: inputs => do
      match ← acceptInput E key clock checks input with
      | none => acceptInputs key checks inputs
      | some stored => do
          let accepted ← acceptInputs key (checks.add stored.event) inputs
          return stored :: accepted

def appendEvents (events : List StoredRuntimeTraceEvent) : Tracing Unit := do
  let current := (← InPlace.self).getD []
  InPlace.refuseIf (∃ event ∈ events, maxTraceEventBytes < (E.lines.encode event).length) .tooLarge
  InPlace.refuseIf (maxTraceJournalBytes < current.length + (E.lines.render events).length) .tooLarge
  modify fun journal => some (journal.getD [] ++ E.lines.render events)

def append (key : TraceKey) (inputs : List (GenUiRuntimeTraceInput × Option Nat)) :
    Tracing GenUiRuntimeTraceProjection := do
  InPlace.refuseIf (key.sourceRevision = 0 ∨ inputs = [] ∨ maxTraceEventsPerAppend < inputs.length) .invalidEvent
  let existing ← readEvents E key
  let accepted ← InPlace.ofExcept (acceptInputs E key (.ofExisting existing) inputs)
  if accepted = [] then pure () else appendEvents E accepted
  load E key

end HyperTerm.Daemon.RuntimeTrace
