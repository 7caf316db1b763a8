import HyperTerm.Lib.Keyed
import HyperTerm.Lib.Result
import HyperTerm.Protocol.Event
import Mathlib.Data.Prod.Lex

/-!
# The Block projector

`BlockProjector` folds the events of one task into the Blocks a client shows.

* `BlockProjector.apply` : one event, and the `BlockPatch` that tells a client what it changed;
* `BlockProjector.snapshot`, `BlockProjector.replay` : the document, from the projector or from a journal;
* `applyPatch` : what a client does with a patch.
-/

namespace HyperTerm.Core
open HyperTerm.Protocol HyperTerm.Lib

inductive ProjectorError where
  | wrongTask (expected actual : TaskId)
  | staleEvent (current actual : Nat)
  | missingOperationId
  | missingBlock (blockId : BlockId)
  | blockKindMismatch (blockId : BlockId)
  | staleTerminalSequence (current actual : Nat)
  | staleResizeGeneration (current actual : Nat)
  | patchBaseMismatch (expected actual : Nat)
  | blockRevisionMismatch (expected actual : Nat)
  deriving DecidableEq

structure DigestInput where
  schemaVersion : Nat
  taskId : TaskId
  revision : Nat
  blocks : List BlockEnvelope

/-- The third-party functions the projector calls: version-5 UUIDs in the OID namespace, the JSON bytes of
a digest input (every path is a string here, so serialisation cannot fail) and SHA-256 in hexadecimal. -/
structure Digests where
  newV5 : String → Uuid
  toVec : DigestInput → List UInt8
  sha256Hex : List UInt8 → String

/-- A choice of the third-party functions under which runs can be evaluated. -/
def sampleDigests : Digests where
  newV5 s := BitVec.ofNat 128 (s.toList.foldl (fun n c => 131 * n + c.toNat) 7)
  toVec _ := []
  sha256Hex _ := ""

variable (D : Digests)

def stableBlockId (scope identity : String) : BlockId := ⟨D.newV5 s!"hyper-term:{scope}:{identity}"⟩

def documentDigest (taskId : TaskId) (revision : Nat) (blocks : List BlockEnvelope) : String :=
  D.sha256Hex (D.toVec { schemaVersion := blockSchemaVersion, taskId, revision, blocks })

/-! ## Presentation of states and decisions -/

def lifecycleForOperation : OperationState → BlockLifecycle
  | .proposed | .policyCheck => .queued
  | .waitingHuman => .waiting
  | .authorized | .dispatching => .running
  | .succeeded => .succeeded
  | .failed | .violated => .failed
  | .cancelled => .cancelled
  | .unknownExecution => .unknownExecution

def attentionForOperation : OperationState → AttentionState
  | .waitingHuman => .waitingApproval
  | .failed | .violated | .unknownExecution => .failed
  | _ => .none

def permissionActionId : PermissionDecision → String
  | .allowOnce => "allow_once"
  | .allowAlways => "allow_always"
  | .rejectOnce => "reject_once"
  | .rejectAlways => "reject_always"
  | .cancelled => "cancel"

def lifecycleForDecision : PermissionDecision → BlockLifecycle
  | .allowOnce | .allowAlways => .succeeded
  | .rejectOnce | .rejectAlways | .cancelled => .cancelled

def lifecycleForOutcome : OperationOutcome → BlockLifecycle
  | .succeeded => .succeeded
  | .failed => .failed
  | .unknownExecution => .unknownExecution

def attentionForOutcome : OperationOutcome → AttentionState
  | .succeeded => .none
  | .failed | .unknownExecution => .failed

/-- The outcome of a receipt that may still be in the form that has no outcome field. -/
def receiptOutcome (succeeded : Bool) (outcome : Option OperationOutcome) : OperationOutcome :=
  outcome.getD (if succeeded then .succeeded else .failed)

def lifecycleForTool : AgentToolStatus → BlockLifecycle
  | .pending => .queued
  | .inProgress => .running
  | .completed => .succeeded
  | .failed => .failed

/-! ## The projector -/

structure BlockProjector where
  taskId : TaskId
  revision : Nat
  blocks : Keyed BlockEnvelope.blockId

namespace BlockProjector

def new (taskId : TaskId) : BlockProjector := ⟨taskId, 0, Keyed.empty⟩

/-- The block with the revision and the place it gets when it is filed: those of a new block, or, over a
block of the same kind, the next revision at the same place. -/
def upsert (p : BlockProjector) (block : BlockEnvelope) (documentRevision : Nat) :
    Except ProjectorError (BlockProjector × BlockOperation) :=
  match p.blocks.get? block.blockId with
  | some existing =>
      if existing.kind ≠ block.kind then .error (.blockKindMismatch block.blockId)
      else
        let block := { block with
          blockRevision := existing.blockRevision + 1, orderKey := existing.orderKey, documentRevision }
        .ok ({ p with blocks := p.blocks.put block }, .upsert block)
  | none =>
      let block := { block with documentRevision }
      .ok ({ p with blocks := p.blocks.put block }, .upsert block)

/-- `vec![self.upsert(block, event.sequence)?]`. -/
def upsertOne (p : BlockProjector) (block : BlockEnvelope) (documentRevision : Nat) :
    Except ProjectorError (BlockProjector × List BlockOperation) := do
  let (p, operation) ← p.upsert block documentRevision
  return (p, [operation])

/-- What an event does to the blocks, and the operations that tell a client. -/
def applyPayload (p : BlockProjector) (event : EventEnvelope) :
    Except ProjectorError (BlockProjector × List BlockOperation) :=
  match event.payload with
  | .taskCreated title =>
      let block := BlockEnvelope.new (stableBlockId D "task" p.taskId.uuid.text) p.taskId .task event.sequence
        (.task title)
      p.upsertOne { block with
        renderSlot := .sessionHeader, trustClass := .trustedChrome, lifecycle := .running } event.sequence
  | .messageAppended blockId role externalMessageId text =>
      match p.blocks.get? blockId with
      | some block =>
          match block.payload with
          | .message existingRole existingText existingExternalMessageId =>
              if existingRole = role ∧ existingExternalMessageId = externalMessageId then
                let block' := { block with
                  payload := .message existingRole (existingText ++ text) existingExternalMessageId
                  blockRevision := block.blockRevision + 1
                  documentRevision := event.sequence }
                .ok ({ p with blocks := p.blocks.put block' },
                  [.appendContent blockId block.blockRevision (block.blockRevision + 1) text])
              else .error (.blockKindMismatch blockId)
          | _ => .error (.blockKindMismatch blockId)
      | none =>
          p.upsertOne (.new blockId p.taskId .message event.sequence (.message role text externalMessageId))
            event.sequence
  | .operationProposed _ kind _ summary risk requiredCapabilities => do
      let operationId ← okOr event.operationId .missingOperationId
      let block := BlockEnvelope.new (stableBlockId D "operation" operationId.uuid.text) p.taskId .operation
        event.sequence (.operation operationId kind summary risk requiredCapabilities .proposed)
      p.upsertOne { block with trustClass := .trustedChrome, lifecycle := .queued } event.sequence
  | .operationStateChanged _ _ toState _ _ => do
      let operationId ← okOr event.operationId .missingOperationId
      let blockId := stableBlockId D "operation" operationId.uuid.text
      let block ← okOr (p.blocks.get? blockId) (.missingBlock blockId)
      match block.payload with
      | .operation id kind summary risk capabilities _ =>
          p.upsertOne { block with
            payload := .operation id kind summary risk capabilities toState
            lifecycle := lifecycleForOperation toState
            attention := attentionForOperation toState } event.sequence
      | _ => .error (.blockKindMismatch blockId)
  | .permissionRequested operationRevision approval prompt options => do
      let operationId ← okOr event.operationId .missingOperationId
      let block := BlockEnvelope.new (stableBlockId D "approval" operationId.uuid.text) p.taskId .approval
        event.sequence (.approval operationId operationRevision approval prompt options none)
      p.upsertOne { block with
        renderSlot := .attention, trustClass := .trustedChrome, lifecycle := .waiting
        attention := .waitingApproval
        actions := options.map fun option =>
          { actionId := permissionActionId option, expectedBlockRevision := block.blockRevision
            risk := .externalEffect, requiredCapabilities := [] } } event.sequence
  | .permissionDecided _ decision _ => do
      let operationId ← okOr event.operationId .missingOperationId
      let blockId := stableBlockId D "approval" operationId.uuid.text
      let block ← okOr (p.blocks.get? blockId) (.missingBlock blockId)
      match block.payload with
      | .approval id operationRevision approval prompt options _ =>
          p.upsertOne { block with
            payload := .approval id operationRevision approval prompt options (some decision)
            lifecycle := lifecycleForDecision decision
            attention := .none
            actions := [] } event.sequence
      | _ => .error (.blockKindMismatch blockId)
  | .operationReceipt operationRevision executor succeeded outcome summary resultDigest => do
      let outcome := receiptOutcome succeeded outcome
      let operationId ← okOr event.operationId .missingOperationId
      let block := BlockEnvelope.new (stableBlockId D "receipt" operationId.uuid.text) p.taskId .receipt
        event.sequence (.operationReceipt operationId operationRevision executor outcome.hasSucceeded
          (some outcome) summary resultDigest)
      p.upsertOne { block with
        trustClass := .trustedChrome
        lifecycle := lifecycleForOutcome outcome
        attention := attentionForOutcome outcome } event.sequence
  | .artifactAccepted artifact =>
      let block := BlockEnvelope.new (stableBlockId D "artifact" p.taskId.uuid.text) p.taskId .artifact
        event.sequence (.artifact artifact)
      p.upsertOne { block with
        renderSlot := .inspector, trustClass := .isolatedArtifact, lifecycle := .succeeded } event.sequence
  | .sandboxProfileCompiled .. | .operationExecutionContextCompiled .. | .sandboxLeaseIssued ..
  | .sandboxReceiptRecorded .. | .sandboxViolationObserved .. | .agentExecutionContextRecorded ..
  | .localMcpServerRuntimeRecorded .. | .localMcpToolCallRecorded .. => .ok (p, [])
  | .terminalOpened terminalId command size =>
      let block := BlockEnvelope.new (stableBlockId D "terminal" terminalId.uuid.text) p.taskId .terminal
        event.sequence (.terminal terminalId command.displayText size 0 0 0 none)
      p.upsertOne { block with trustClass := .trustedChrome, lifecycle := .running } event.sequence
  | .terminalOutputObserved terminalId streamSequence byteCount => do
      let blockId := stableBlockId D "terminal" terminalId.uuid.text
      let block ← okOr (p.blocks.get? blockId) (.missingBlock blockId)
      match block.payload with
      | .terminal id command size generation existingSequence existingBytes exitCode =>
          if streamSequence ≤ existingSequence then
            .error (.staleTerminalSequence existingSequence streamSequence)
          else
            -- `saturating_add` on `u64`
            p.upsertOne { block with
              payload := .terminal id command size generation streamSequence
                (min (existingBytes + byteCount) (2 ^ 64 - 1)) exitCode } event.sequence
      | _ => .error (.blockKindMismatch blockId)
  | .terminalResized terminalId generation size => do
      let blockId := stableBlockId D "terminal" terminalId.uuid.text
      let block ← okOr (p.blocks.get? blockId) (.missingBlock blockId)
      match block.payload with
      | .terminal id command _ resizeGeneration streamSequence byteCount exitCode =>
          if generation ≤ resizeGeneration then
            .error (.staleResizeGeneration resizeGeneration generation)
          else
            p.upsertOne { block with
              payload := .terminal id command size generation streamSequence byteCount exitCode }
              event.sequence
      | _ => .error (.blockKindMismatch blockId)
  | .terminalExited terminalId exitCode => do
      let blockId := stableBlockId D "terminal" terminalId.uuid.text
      let block ← okOr (p.blocks.get? blockId) (.missingBlock blockId)
      match block.payload with
      | .terminal id command size generation streamSequence byteCount _ =>
          p.upsertOne { block with
            payload := .terminal id command size generation streamSequence byteCount exitCode
            lifecycle := if exitCode = some 0 then .succeeded else .failed
            attention := if exitCode = some 0 then .none else .failed } event.sequence
      | _ => .error (.blockKindMismatch blockId)
  | .reviewReady summary =>
      let block := BlockEnvelope.new (stableBlockId D "review" p.taskId.uuid.text) p.taskId .review
        event.sequence (.review summary)
      p.upsertOne { block with
        renderSlot := .attention, trustClass := .trustedChrome, lifecycle := .succeeded
        attention := .reviewReady } event.sequence
  | .diagnostic code message =>
      let block := BlockEnvelope.new (stableBlockId D "diagnostic" event.eventId.uuid.text) p.taskId .diagnostic
        event.sequence (.diagnostic code message)
      p.upsertOne { block with lifecycle := .failed, attention := .failed } event.sequence
  | .agentToolCallUpdated turnId call =>
      let block := BlockEnvelope.new (stableBlockId D "agent-tool-call" (turnId ++ ":" ++ call.toolCallId))
        p.taskId .agentToolCall event.sequence (.agentToolCall turnId call)
      p.upsertOne { block with
        lifecycle := lifecycleForTool call.status
        attention := if call.status = .failed then .failed else .none } event.sequence
  | .agentPlanUpdated turnId entries =>
      let block := BlockEnvelope.new (stableBlockId D "agent-plan" turnId) p.taskId .agentPlan event.sequence
        (.agentPlan turnId entries)
      p.upsertOne { block with
        lifecycle := if entries.all fun entry => entry.status == .completed then .succeeded else .running }
        event.sequence

def apply (p : BlockProjector) (event : EventEnvelope) : Except ProjectorError (BlockProjector × BlockPatch) :=
  if event.taskId ≠ p.taskId then .error (.wrongTask p.taskId event.taskId)
  else if event.sequence ≤ p.revision then .error (.staleEvent p.revision event.sequence)
  else do
    let (p', operations) ← p.applyPayload D event
    return ({ p' with revision := event.sequence },
      { streamSequence := event.sequence, baseRevision := p.revision, targetRevision := event.sequence
        operations })

def replay (taskId : TaskId) (events : List EventEnvelope) : Except ProjectorError BlockProjector :=
  events.foldlM (fun p event =>
    if event.taskId = taskId then do
      let (p, _) ← p.apply D event
      return p
    else return p) (new taskId)

end BlockProjector

/-! ## Documents and patches -/

/-- Documents list their blocks by order key, then by id. -/
def sortKey (block : BlockEnvelope) : ℕ ×ₗ ℕ := toLex (block.orderKey, block.blockId.uuid.toNat)

def BlockProjector.snapshot (p : BlockProjector) : BlockDocument :=
  let blocks := sortByKey sortKey p.blocks.values
  { schemaVersion := blockSchemaVersion
    taskId := p.taskId
    revision := p.revision
    semanticDigest := documentDigest D p.taskId p.revision blocks
    blocks }

/-- The block a client finds first under an id. -/
def BlockDocument.find? (blocks : List BlockEnvelope) (blockId : BlockId) : Option BlockEnvelope :=
  blocks.find? fun block => block.blockId = blockId

def applyOperation (targetRevision : Nat) (blocks : List BlockEnvelope) :
    BlockOperation → Except ProjectorError (List BlockEnvelope)
  | .upsert block =>
      match BlockDocument.find? blocks block.blockId with
      | some existing =>
          if existing.kind ≠ block.kind then .error (.blockKindMismatch block.blockId)
          else .ok (updateFirst (fun b => b.blockId = block.blockId) (fun _ => block) blocks)
      | none => .ok (blocks ++ [block])
  | .appendContent blockId expectedPreviousRevision blockRevision text => do
      let block ← okOr (BlockDocument.find? blocks blockId) (.missingBlock blockId)
      if block.blockRevision ≠ expectedPreviousRevision then
        .error (.blockRevisionMismatch block.blockRevision expectedPreviousRevision)
      else
        match block.payload with
        | .message role existing externalMessageId =>
            let block' := { block with
              payload := .message role (existing ++ text) externalMessageId
              blockRevision
              documentRevision := targetRevision }
            .ok (updateFirst (fun b => b.blockId = blockId) (fun _ => block') blocks)
        | _ => .error (.blockKindMismatch blockId)
  | .remove blockId => .ok (blocks.filter fun block => block.blockId ≠ blockId)

/-- `apply_patch`; the source leaves a document it could not patch half changed, which no caller reads. -/
def applyPatch (document : BlockDocument) (patch : BlockPatch) : Except ProjectorError BlockDocument :=
  if document.revision ≠ patch.baseRevision then
    .error (.patchBaseMismatch document.revision patch.baseRevision)
  else do
    let blocks ← patch.operations.foldlM (applyOperation patch.targetRevision) document.blocks
    let blocks := sortByKey sortKey blocks
    return { document with
      blocks
      revision := patch.targetRevision
      semanticDigest := documentDigest D document.taskId patch.targetRevision blocks }

/-! ## What one event can do to the blocks -/

/-- The changes an accepted event makes: none, one block filed, or text appended to a message. -/
inductive BlockChange (p : BlockProjector) (sequence : Nat) : BlockProjector → List BlockOperation → Prop
  | unchanged : BlockChange p sequence p []
  | filed (block : BlockEnvelope) {p' : BlockProjector} {operation : BlockOperation}
      (h : p.upsert block sequence = .ok (p', operation)) : BlockChange p sequence p' [operation]
  | appended (block : BlockEnvelope) (role : MessageRole) (existing text : String) (external : Option String)
      (hget : p.blocks.get? block.blockId = some block) (hpayload : block.payload = .message role existing external) :
      BlockChange p sequence
        { p with blocks := p.blocks.put { block with
            payload := .message role (existing ++ text) external
            blockRevision := block.blockRevision + 1
            documentRevision := sequence } }
        [.appendContent block.blockId block.blockRevision (block.blockRevision + 1) text]

variable {D}

namespace BlockProjector

variable {p p' : BlockProjector} {event : EventEnvelope} {operations : List BlockOperation}

theorem upsertOne_change {block : BlockEnvelope} {sequence : Nat}
    (h : p.upsertOne block sequence = .ok (p', operations)) : BlockChange p sequence p' operations := by
  simp only [upsertOne, bind_eq_ok, pure_eq_ok, Prod.exists, Prod.mk.injEq] at h
  obtain ⟨q, operation, hup, rfl, rfl⟩ := h
  exact .filed block hup

/-- A step that starts from a block already there: it is missing, of the wrong payload, or filed again. -/
theorem existing_change {block? : Option BlockEnvelope} {e : ProjectorError} {sequence : Nat}
    {f : BlockEnvelope → Except ProjectorError (BlockProjector × List BlockOperation)}
    (hf : ∀ block, f block = .ok (p', operations) → BlockChange p sequence p' operations)
    (h : (do let block ← okOr block? e; f block) = .ok (p', operations)) : BlockChange p sequence p' operations := by
  obtain ⟨block, -, hb⟩ := bind_eq_ok.mp h
  exact hf block hb

theorem applyPayload_change (h : p.applyPayload D event = .ok (p', operations)) :
    BlockChange p event.sequence p' operations := by
  unfold applyPayload at h
  split at h
  case h_2 blockId role external text _ =>
    split at h
    case h_1 block hget =>
      split at h
      case h_1 existingRole existing existingExternal hpayload =>
        split_ifs at h with heq
        obtain ⟨rfl, rfl⟩ := Prod.mk.inj (Except.ok.inj h)
        obtain rfl := Keyed.key_eq_of_get? hget
        exact .appended block existingRole existing text existingExternal hget hpayload
      case h_2 => exact nomatch h
    case h_2 => exact upsertOne_change h
  case h_3 | h_5 | h_7 =>
    obtain ⟨_, -, h⟩ := bind_eq_ok.mp h
    exact upsertOne_change h
  case h_4 | h_6 =>
    obtain ⟨_, -, h⟩ := bind_eq_ok.mp h
    refine existing_change (fun block hb => ?_) h
    split at hb
    · exact upsertOne_change hb
    · exact nomatch hb
  case h_18 | h_19 =>
    refine existing_change (fun block hb => ?_) h
    split at hb
    · split_ifs at hb
      exact upsertOne_change hb
    · exact nomatch hb
  case h_20 =>
    refine existing_change (fun block hb => ?_) h
    split at hb
    · exact upsertOne_change hb
    · exact nomatch hb
  all_goals first
    | exact upsertOne_change h
    | (obtain ⟨rfl, rfl⟩ := Prod.mk.inj (Except.ok.inj h); exact .unchanged)

theorem apply_eq_ok {patch : BlockPatch} :
    p.apply D event = .ok (p', patch) ↔
      event.taskId = p.taskId ∧ p.revision < event.sequence ∧ ∃ q operations,
        p.applyPayload D event = .ok (q, operations) ∧ p' = { q with revision := event.sequence } ∧
        patch = { streamSequence := event.sequence, baseRevision := p.revision,
                  targetRevision := event.sequence, operations } := by
  unfold apply
  split_ifs with htask hseq
  · exact ⟨fun h => (nomatch h), fun h => absurd h.1 htask⟩
  · exact ⟨fun h => (nomatch h), fun h => absurd h.2.1 (by omega)⟩
  · simp only [bind_eq_ok, pure_eq_ok, Prod.exists, Prod.mk.injEq]
    constructor
    · rintro ⟨q, operations, hq, rfl, rfl⟩
      exact ⟨not_not.mp htask, by omega, q, operations, hq, rfl, rfl⟩
    · rintro ⟨-, -, q, operations, hq, rfl, rfl⟩
      exact ⟨q, operations, hq, rfl, rfl⟩

theorem upsert_taskId {block : BlockEnvelope} {operation : BlockOperation} {sequence : Nat}
    (h : p.upsert block sequence = .ok (p', operation)) : p'.taskId = p.taskId := by
  unfold upsert at h
  split at h
  · split_ifs at h
    exact (Prod.mk.inj (Except.ok.inj h)).1 ▸ rfl
  · exact (Prod.mk.inj (Except.ok.inj h)).1 ▸ rfl

theorem change_taskId {sequence : Nat} (h : BlockChange p sequence p' operations) : p'.taskId = p.taskId := by
  cases h with
  | unchanged => rfl
  | filed block h => exact upsert_taskId h
  | appended => rfl

theorem apply_taskId {patch : BlockPatch} (h : p.apply D event = .ok (p', patch)) : p'.taskId = p.taskId := by
  obtain ⟨-, -, q, _, hq, rfl, -⟩ := apply_eq_ok.mp h
  have hq' : q.taskId = p.taskId := change_taskId (applyPayload_change hq)
  exact hq'

end BlockProjector

end HyperTerm.Core
