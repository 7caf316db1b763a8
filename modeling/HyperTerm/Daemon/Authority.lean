import HyperTerm.Core.Journal
import HyperTerm.Core.Operation
import HyperTerm.Core.Projector

/-!
# The authority: one journal, one reducer, one projector a task

* `AuthorityState.record` : the one way into the journal. An event is tried on copies of the reducer and
  of its task's projector, appended, and only then are the copies put in place.
* `openAuthority` : the replay loop of opening the daemon, with its own checks.

`foldEvents` is what the journal means. The authority holds exactly that after every call
(`record_consistent`), and opening the daemon on its file finds it again (`openAuthority_record`).
-/

namespace HyperTerm.Daemon
open HyperTerm.Protocol HyperTerm.Core HyperTerm.Lib

inductive DaemonError where
  | journal (error : JournalError)
  | operation (error : OperationError)
  | projector (error : ProjectorError)
  | artifactStore (message : String)
  | artifactAcceptanceRequiresGenUiCompile
  | taskNotFound (taskId : TaskId)
  | duplicateTask (taskId : TaskId)
  | journalEventBeforeTask (taskId : TaskId)
  | operationNotFound (operationId : OperationId)
  | operationTaskMismatch (expected actual : TaskId)
  | staleOperationRevision (expected actual : Nat)
  | operationNotWaiting (state : OperationState)
  | invalidApprovalDetail
  | operationNotAuthorized (state : OperationState)
  | operationNotDispatching (state : OperationState)
  | genericDispatchRequiresOpaqueAction
  | actionKindMismatch
  | invalidAction (message : String)
  | invalidBoundedText (label : String) (maximum : Nat)
  | invalidResultDigest
  | inconsistentOperationOutcome
  | sandbox (message : String)
  | unsupportedTerminalAction
  | isolatedTaskRequiresVmDispatch
  | isolatedTaskCapabilityRequired
  | terminal (message : String)
  | isolated (message : String)
  | emptyMessage
  | messageTooLarge (bytes : Nat)
  | externalMessageIdTooLarge
  | invalidAgentProjection (message : String)
  | invalidLocalMcpRuntimeReceipt
  | invalidLocalMcpToolCallReceipt
  | localMcpRuntimeNotRecorded
  deriving DecidableEq

def journalError {α : Type} : Except JournalError α → Except DaemonError α := Except.mapError .journal
def operationError {α : Type} : Except OperationError α → Except DaemonError α := Except.mapError .operation
def projectorError {α : Type} : Except ProjectorError α → Except DaemonError α := Except.mapError .projector

abbrev Projectors := Keyed BlockProjector.taskId

structure AuthorityState where
  journal : JsonlJournal
  operations : OperationReducer
  projectors : Projectors

/-- The authority of an empty state directory. -/
def emptyAuthority : AuthorityState := ⟨⟨[], []⟩, .new, .empty⟩

/-- What one call of `record` gets from outside: the clock, a random event id, and how its I/O goes. -/
structure RecordEnv where
  clock : Except JournalError Nat
  eventId : EventId
  io : AppendIo

variable (C : LineCodec EventEnvelope) (D : Digests)

/-- The projector of a task, a new one if it has none. -/
def projectorFor (projectors : Projectors) (taskId : TaskId) : BlockProjector :=
  (projectors.get? taskId).getD (.new taskId)

namespace AuthorityState

/-- `record` up to the append: the envelope, and the copies it was tried on. -/
def tryEvent (a : AuthorityState) (env : RecordEnv) (event : NewEvent) :
    Except DaemonError (EventEnvelope × OperationReducer × BlockProjector × BlockPatch) :=
  if event.payload.isTaskCreated ∧ (a.projectors.get? event.taskId).isSome then
    .error (.duplicateTask event.taskId)
  else if ¬event.payload.isTaskCreated ∧ ¬(a.projectors.get? event.taskId).isSome then
    .error (.taskNotFound event.taskId)
  else do
    let envelope ← journalError (a.journal.prepare env.clock env.eventId event)
    let nextOperations ← operationError (a.operations.apply envelope)
    let (nextProjector, patch) ← projectorError ((projectorFor a.projectors envelope.taskId).apply D envelope)
    return (envelope, nextOperations, nextProjector, patch)

def record (a : AuthorityState) (env : RecordEnv) (event : NewEvent) :
    AuthorityState × Except DaemonError (EventEnvelope × BlockPatch) :=
  match a.tryEvent D env event with
  | .error e => (a, .error e)
  | .ok (envelope, nextOperations, nextProjector, patch) =>
      match a.journal.appendEnvelope C envelope env.io with
      | (journal, .error e) => ({ a with journal }, .error (.journal e))
      | (journal, .ok _) =>
          ({ journal, operations := nextOperations, projectors := a.projectors.put nextProjector },
            .ok (envelope, patch))

end AuthorityState

/-! ## Replay -/

/-- What one journalled event means for the reducer and the projectors. -/
def foldEvent (s : OperationReducer × Projectors) (event : EventEnvelope) :
    Except DaemonError (OperationReducer × Projectors) := do
  let operations ← operationError (s.1.apply event)
  let (projector, _) ← projectorError ((projectorFor s.2 event.taskId).apply D event)
  return (operations, s.2.put projector)

def foldEvents (events : List EventEnvelope) : Except DaemonError (OperationReducer × Projectors) :=
  events.foldlM (foldEvent D) (.new, .empty)

/-- The state of the replay loop of `open_with_sandbox_launcher`. -/
structure Replay where
  createdTasks : Finset TaskId
  operations : OperationReducer
  projectors : Projectors

/-- The set of created tasks after an event, which must start its task exactly if the task is new. -/
def Replay.taskCheck (r : Replay) (event : EventEnvelope) : Except DaemonError (Finset TaskId) :=
  if event.payload.isTaskCreated then
    if event.taskId ∈ r.createdTasks then .error (.duplicateTask event.taskId)
    else .ok (insert event.taskId r.createdTasks)
  else if event.taskId ∉ r.createdTasks then .error (.journalEventBeforeTask event.taskId)
  else .ok r.createdTasks

/-- `artifacts.read` on the artifact an event accepts; `readArtifact` is the store of the state directory. -/
def artifactCheck (readArtifact : AcceptedGenUiArtifact → Except String Unit) (event : EventEnvelope) :
    Except DaemonError Unit :=
  match event.payload with
  | .artifactAccepted artifact => (readArtifact artifact).mapError .artifactStore
  | _ => .ok ()

/-- One round of the replay loop. -/
def replayEvent (readArtifact : AcceptedGenUiArtifact → Except String Unit) (r : Replay) (event : EventEnvelope) :
    Except DaemonError Replay := do
  let createdTasks ← r.taskCheck event
  let operations ← operationError (r.operations.apply event)
  let (projector, _) ← projectorError ((projectorFor r.projectors event.taskId).apply D event)
  artifactCheck readArtifact event
  return { createdTasks, operations, projectors := r.projectors.put projector }

def replayLoop (readArtifact : AcceptedGenUiArtifact → Except String Unit) (events : List EventEnvelope) :
    Except DaemonError Replay :=
  events.foldlM (replayEvent D readArtifact) ⟨∅, .new, .empty⟩

def openAuthority (readArtifact : AcceptedGenUiArtifact → Except String Unit) (file : List UInt8) :
    Except DaemonError AuthorityState := do
  let journal ← journalError (JsonlJournal.open C file)
  let replay ← replayLoop D readArtifact journal.events
  return { journal, operations := replay.operations, projectors := replay.projectors }

variable {C D}

/-! ## What one call can do -/

@[simp] theorem journalError_eq_ok {α : Type} {x : Except JournalError α} {v : α} :
    journalError x = .ok v ↔ x = .ok v := mapError_eq_ok

@[simp] theorem operationError_eq_ok {α : Type} {x : Except OperationError α} {v : α} :
    operationError x = .ok v ↔ x = .ok v := mapError_eq_ok

@[simp] theorem projectorError_eq_ok {α : Type} {x : Except ProjectorError α} {v : α} :
    projectorError x = .ok v ↔ x = .ok v := mapError_eq_ok

/-- The envelope that the journal prepares for a new event. -/
structure Envelops (j : JsonlJournal) (env : RecordEnv) (event : NewEvent) (envelope : EventEnvelope) : Prop where
  schemaVersion : envelope.schemaVersion = eventSchemaVersion
  sequence : envelope.sequence = j.lastSequence + 1
  eventId : envelope.eventId = env.eventId
  taskId : envelope.taskId = event.taskId
  operationId : envelope.operationId = event.operationId
  payload : envelope.payload = event.payload

namespace AuthorityState

/-- The result of a call of `record`: refused without a trace, failed in the I/O of the append, or recorded. -/
inductive Outcome (C : LineCodec EventEnvelope) (D : Digests) (a : AuthorityState) (env : RecordEnv)
    (event : NewEvent) : AuthorityState → Except DaemonError (EventEnvelope × BlockPatch) → Prop
  | refused (e : DaemonError) : Outcome C D a env event a (.error e)
  | ioFailed (file : List UInt8) (hio : env.io ≠ .done) :
      Outcome C D a env event { a with journal := { a.journal with file } } (.error (.journal .io))
  | recorded (envelope : EventEnvelope) (operations : OperationReducer) (projector : BlockProjector)
      (patch : BlockPatch) (henv : Envelops a.journal env event envelope)
      (htask : event.payload.isTaskCreated = true ↔ a.projectors.get? event.taskId = none)
      (hops : a.operations.apply envelope = .ok operations)
      (hproj : (projectorFor a.projectors event.taskId).apply D envelope = .ok (projector, patch))
      (hio : env.io = .done) (hlen : (C.encode envelope).length ≤ maxEventLineBytes) :
      Outcome C D a env event
        { journal := ⟨a.journal.file ++ (C.encode envelope ++ [newline]), a.journal.events ++ [envelope]⟩
          operations, projectors := a.projectors.put projector } (.ok (envelope, patch))

variable {a : AuthorityState} {env : RecordEnv} {event : NewEvent}

theorem tryEvent_eq_ok {envelope : EventEnvelope} {operations : OperationReducer} {projector : BlockProjector}
    {patch : BlockPatch} :
    a.tryEvent D env event = .ok (envelope, operations, projector, patch) ↔
      (event.payload.isTaskCreated = true ↔ a.projectors.get? event.taskId = none) ∧
        a.journal.prepare env.clock env.eventId event = .ok envelope ∧
        a.operations.apply envelope = .ok operations ∧
        (projectorFor a.projectors envelope.taskId).apply D envelope = .ok (projector, patch) := by
  unfold tryEvent
  split_ifs with hdup hmissing
  · refine ⟨fun h => (nomatch h), fun h => ?_⟩
    rw [h.1.mp hdup.1] at hdup
    exact nomatch hdup.2
  · refine ⟨fun h => (nomatch h), fun h => ?_⟩
    rw [Option.not_isSome_iff_eq_none] at hmissing
    exact absurd (h.1.mpr hmissing.2) hmissing.1
  · have htask : event.payload.isTaskCreated = true ↔ a.projectors.get? event.taskId = none := by
      rw [← Option.not_isSome_iff_eq_none]
      tauto
    simp only [bind_eq_ok, journalError_eq_ok, operationError_eq_ok, projectorError_eq_ok, pure_eq_ok,
      Prod.exists, Prod.mk.injEq]
    constructor
    · rintro ⟨_, hprep, _, hops, _, _, hproj, rfl, rfl, rfl, rfl⟩
      exact ⟨htask, hprep, hops, hproj⟩
    · rintro ⟨-, hprep, hops, hproj⟩
      exact ⟨_, hprep, _, hops, _, _, hproj, rfl, rfl, rfl, rfl⟩

theorem envelops_of_prepare {j : JsonlJournal} {envelope : EventEnvelope}
    (h : j.prepare env.clock env.eventId event = .ok envelope) : Envelops j env event envelope := by
  simp only [JsonlJournal.prepare, bind_eq_ok, pure_eq_ok] at h
  obtain ⟨_, -, rfl⟩ := h
  exact ⟨rfl, rfl, rfl, rfl, rfl, rfl⟩

theorem record_outcome (a : AuthorityState) (env : RecordEnv) (event : NewEvent) :
    a.Outcome C D env event (a.record C D env event).1 (a.record C D env event).2 := by
  unfold record
  cases htry : a.tryEvent D env event with
  | error e => exact .refused e
  | ok r =>
      obtain ⟨envelope, operations, projector, patch⟩ := r
      obtain ⟨htask, hprep, hops, hproj⟩ := tryEvent_eq_ok.mp htry
      have henv := envelops_of_prepare hprep
      rw [henv.taskId] at hproj
      unfold JsonlJournal.appendEnvelope
      dsimp only
      cases henc : a.journal.encodeLine C envelope with
      | error e => exact .refused (.journal e)
      | ok encoded =>
          obtain ⟨-, -, hlen, rfl⟩ := JsonlJournal.encodeLine_eq_ok.mp henc
          dsimp only
          by_cases hio : env.io = .done
          · rw [if_pos hio, hio]
            exact .recorded envelope operations projector patch henv htask hops hproj hio hlen
          · rw [if_neg hio]
            exact .ioFailed _ hio

theorem record_of_tryEvent {envelope : EventEnvelope} {operations : OperationReducer} {projector : BlockProjector}
    {patch : BlockPatch} (htry : a.tryEvent D env event = .ok (envelope, operations, projector, patch))
    (hio : env.io = .done) (hlen : (C.encode envelope).length ≤ maxEventLineBytes) :
    a.record C D env event =
      ({ journal := ⟨a.journal.file ++ (C.encode envelope ++ [newline]), a.journal.events ++ [envelope]⟩
         operations, projectors := a.projectors.put projector }, .ok (envelope, patch)) := by
  have henv := envelops_of_prepare (tryEvent_eq_ok.mp htry).2.1
  have henc : a.journal.encodeLine C envelope = .ok (C.encode envelope) :=
    JsonlJournal.encodeLine_eq_ok.mpr ⟨henv.schemaVersion, henv.sequence, hlen, rfl⟩
  simp only [record, htry, JsonlJournal.appendEnvelope, henc, hio, if_true]
  rfl

end AuthorityState

end HyperTerm.Daemon
