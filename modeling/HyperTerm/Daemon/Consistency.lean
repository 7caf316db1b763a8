import HyperTerm.Core.Kinds
import HyperTerm.Daemon.Operations
import HyperTerm.Daemon.Replay

/-!
# Reducer and projectors agree on what they accept

Every operation of the reducer has its block in the projector of its task (`Consistent`), after any calls of
`record`. So a transition that the reducer accepts is accepted by the projector as well, and a decision is
accepted by both where there is an approval block.
-/

namespace HyperTerm.Daemon
open HyperTerm.Protocol HyperTerm.Core HyperTerm.Lib

variable {C : LineCodec EventEnvelope} {D : Digests} {a : AuthorityState}

/-- The kind of a block of a task. -/
def blockKind (projectors : Projectors) (taskId : TaskId) (blockId : BlockId) : Option BlockKind :=
  (projectors.get? taskId).bind fun p => p.kindAt blockId

theorem blockKind_eq_some {projectors : Projectors} {taskId : TaskId} {blockId : BlockId} {kind : BlockKind} :
    blockKind projectors taskId blockId = some kind ↔
      ∃ p, projectors.get? taskId = some p ∧ p.kindAt blockId = some kind :=
  Option.bind_eq_some_iff

def blockAt (projectors : Projectors) (taskId : TaskId) (blockId : BlockId) : Option BlockEnvelope :=
  (projectors.get? taskId).bind fun p => p.blocks.get? blockId

theorem blockKind_eq (projectors : Projectors) (taskId : TaskId) (blockId : BlockId) :
    blockKind projectors taskId blockId = (blockAt projectors taskId blockId).map BlockEnvelope.kind := by
  unfold blockKind blockAt BlockProjector.kindAt
  cases projectors.get? taskId <;> rfl

structure Consistent (D : Digests) (a : AuthorityState) : Prop where
  typed : ∀ taskId p, a.projectors.get? taskId = some p → p.Typed
  behind : ∀ taskId p, a.projectors.get? taskId = some p → p.revision ≤ a.journal.lastSequence
  filed : ∀ id r, a.operations.get id = some r →
    blockKind a.projectors r.taskId (stableBlockId D "operation" id.uuid.text) = some .operation

theorem consistent_empty (D : Digests) : Consistent D emptyAuthority :=
  ⟨fun _ _ h => (nomatch h), fun _ _ h => (nomatch h), fun _ _ h => (nomatch h)⟩

theorem projectorFor_typed (h : Consistent D a) (taskId : TaskId) : (projectorFor a.projectors taskId).Typed := by
  unfold projectorFor
  cases hp : a.projectors.get? taskId with
  | none => exact BlockProjector.typed_new taskId
  | some p => exact h.typed taskId p hp

/-- A block keeps its kind in the projector of its task. -/
theorem blockKind_put {projectors : Projectors} {taskId : TaskId} {projector : BlockProjector}
    {event : EventEnvelope} {patch : BlockPatch} {blockId : BlockId} {kind : BlockKind}
    (hkind : blockKind projectors taskId blockId = some kind)
    (hproj : (projectorFor projectors event.taskId).apply D event = .ok (projector, patch)) :
    blockKind (projectors.put projector) taskId blockId = some kind := by
  obtain ⟨p, hp, hkind⟩ := blockKind_eq_some.mp hkind
  have hkey : projector.taskId = event.taskId :=
    (BlockProjector.apply_taskId hproj).trans (projectorFor_taskId _ _)
  rw [blockKind, Keyed.get?_put, hkey]
  split_ifs with htask
  · rw [← htask, projectorFor, hp, Option.getD_some] at hproj
    exact BlockProjector.kindAt_apply hproj hkind
  · rw [hp]
    exact hkind

theorem Consistent.record (h : Consistent D a) (env : RecordEnv) (event : NewEvent) :
    Consistent D (a.record C D env event).1 := by
  have hout := a.record_outcome (C := C) (D := D) env event
  generalize (a.record C D env event).1 = a', (a.record C D env event).2 = result at hout ⊢
  cases hout with
  | refused e => exact h
  | ioFailed file _ => exact ⟨h.typed, h.behind, h.filed⟩
  | recorded envelope operations projector patch henv htask hops hproj hio hlen =>
      have hlast : JsonlJournal.lastSequence ⟨a.journal.file ++ (C.encode envelope ++ [newline]),
          a.journal.events ++ [envelope]⟩ = a.journal.lastSequence + 1 := by
        rw [JsonlJournal.lastSequence, List.getLast?_concat, Option.elim_some, henv.sequence]
      have hkey : projector.taskId = event.taskId :=
        (BlockProjector.apply_taskId hproj).trans (projectorFor_taskId _ _)
      rw [← henv.taskId] at hproj hkey
      refine ⟨fun taskId p hp => ?_, fun taskId p hp => ?_, fun id r hget => ?_⟩
      · rw [Keyed.get?_put] at hp
        split_ifs at hp
        · obtain rfl := Option.some.inj hp
          exact BlockProjector.typed_apply (projectorFor_typed h _) hproj
        · exact h.typed taskId p hp
      · rw [hlast]
        rw [Keyed.get?_put] at hp
        split_ifs at hp
        · obtain rfl := Option.some.inj hp
          rw [BlockProjector.apply_revision hproj, henv.sequence]
        · exact (h.behind taskId p hp).trans (Nat.le_succ _)
      · -- Only a proposal makes a new operation, and it files the block; every other record keeps its task.
        have hold (r' : OperationRecord) (hget' : a.operations.get id = some r') (htask : r'.taskId = r.taskId) :
            blockKind (a.projectors.put projector) r.taskId (stableBlockId D "operation" id.uuid.text) =
              some .operation :=
          blockKind_put (htask ▸ h.filed id r' hget') hproj
        cases OperationReducer.apply_cases hops with
        | proposed record kind action summary risk capabilities hpayload hrecord hid hfresh =>
            rw [OperationReducer.get_put] at hget
            split_ifs at hget with hsame
            · obtain rfl := Option.some.inj hget
              have htaskId : record.taskId = envelope.taskId := by rw [hrecord]
              refine blockKind_eq_some.mpr ⟨projector, ?_, ?_⟩
              · rw [Keyed.get?_put, hkey, htaskId, if_pos rfl]
              · exact hsame ▸ BlockProjector.kindAt_proposed hpayload hid hproj
            · exact hold r hget rfl
        | moved record _ _ _ _ _ hget' =>
            rw [OperationReducer.get_put] at hget
            split_ifs at hget with hsame
            · obtain rfl := Option.some.inj hget
              exact hold record (hsame ▸ hget') rfl
            · exact hold r hget rfl
        | requested => exact hold r hget rfl
        | decided record _ _ _ _ hget' =>
            rw [OperationReducer.get_put] at hget
            split_ifs at hget with hsame
            · obtain rfl := Option.some.inj hget
              exact hold record (hsame ▸ hget') rfl
            · exact hold r hget rfl
        | other => exact hold r hget rfl

/-! ## What is accepted -/

/-- `record` tries the event with success whenever the clock answers. -/
def Accepts (D : Digests) (a : AuthorityState) (event : NewEvent) : Prop :=
  ∀ env : RecordEnv, (∃ now, env.clock = .ok now) → ∃ r, a.tryEvent D env event = .ok r

theorem accepts_of {event : NewEvent} {p : BlockProjector} (h : Consistent D a)
    (hcreate : event.payload.isTaskCreated = false) (hp : a.projectors.get? event.taskId = some p)
    (hops : ∀ envelope : EventEnvelope, envelope.payload = event.payload → envelope.operationId = event.operationId →
      ∃ operations, a.operations.apply envelope = .ok operations)
    (hblocks : ∀ envelope : EventEnvelope, envelope.payload = event.payload →
      envelope.operationId = event.operationId → ∃ p' operations, p.applyPayload D envelope = .ok (p', operations)) :
    Accepts D a event := by
  rintro env ⟨now, hnow⟩
  obtain ⟨envelope, hprep⟩ : ∃ envelope, a.journal.prepare env.clock env.eventId event = .ok envelope := by
    simp only [JsonlJournal.prepare, hnow]
    exact ⟨_, rfl⟩
  have henv := AuthorityState.envelops_of_prepare hprep
  obtain ⟨operations, hoperations⟩ := hops envelope henv.payload henv.operationId
  obtain ⟨p', blocks, hp'⟩ := hblocks envelope henv.payload henv.operationId
  have hprojector : projectorFor a.projectors envelope.taskId = p := by
    rw [henv.taskId, projectorFor, hp, Option.getD_some]
  have hproj : ∃ projector patch, (projectorFor a.projectors envelope.taskId).apply D envelope = .ok (projector, patch) := by
    refine ⟨_, _, BlockProjector.apply_eq_ok.mpr ⟨(projectorFor_taskId _ _).symm, ?_, p', blocks, ?_, rfl, rfl⟩⟩
    · rw [hprojector, henv.sequence]
      exact Nat.lt_succ_of_le (h.behind _ p hp)
    · rw [hprojector]
      exact hp'
  obtain ⟨projector, patch, hproj⟩ := hproj
  exact ⟨_, AuthorityState.tryEvent_eq_ok.mpr ⟨by simp [hcreate, hp], hprep, hoperations, hproj⟩⟩

variable {r : OperationRecord} {actor : Actor}

/-- The reducer's transitions are never refused by the projector. -/
theorem accepts_transition (h : Consistent D a) (hget : a.operations.get r.operationId = some r)
    {toState : OperationState} (hvalid : validTransition r.state toState = true) (reason : Option String) :
    Accepts D a (Method.operationEvent r.taskId r.operationId
      (.operationStateChanged (r.revision + 1) r.state toState actor reason)) := by
  obtain ⟨p, hp, hkind⟩ := blockKind_eq_some.mp (h.filed _ r hget)
  exact accepts_of h rfl hp
    (fun envelope hpayload hid => ⟨_, OperationReducer.apply_moved hpayload hid hget hvalid⟩)
    fun envelope hpayload hid => BlockProjector.stateChanged_accepted (h.typed _ p hp) hpayload hid hkind

/-- The operation has the block on which its decision is shown. -/
def HasApproval (D : Digests) (a : AuthorityState) (r : OperationRecord) : Prop :=
  blockKind a.projectors r.taskId (stableBlockId D "approval" r.operationId.uuid.text) = some .approval

theorem accepts_decision_iff (h : Consistent D a) (hget : a.operations.get r.operationId = some r)
    (decision : PermissionDecision) :
    Accepts D a (Method.operationEvent r.taskId r.operationId (.permissionDecided r.revision decision actor)) ↔
      r.state = .waitingHuman ∧ r.permissionDecision = none ∧ HasApproval D a r := by
  constructor
  · intro haccepts
    obtain ⟨⟨envelope, operations, projector, patch⟩, htry⟩ := haccepts ⟨.ok 0, ⟨0⟩, .done⟩ ⟨0, rfl⟩
    obtain ⟨-, hprep, hops, hproj⟩ := AuthorityState.tryEvent_eq_ok.mp htry
    have henv := AuthorityState.envelops_of_prepare hprep
    obtain ⟨hstate, hdecision⟩ :=
      (OperationReducer.apply_decided_iff henv.payload henv.operationId hget).mp ⟨_, hops⟩
    obtain ⟨p, hp, -⟩ := blockKind_eq_some.mp (h.filed _ r hget)
    obtain ⟨-, -, q, blocks, hq, -⟩ := BlockProjector.apply_eq_ok.mp hproj
    rw [henv.taskId] at hq
    change (projectorFor a.projectors r.taskId).applyPayload D envelope = _ at hq
    rw [projectorFor, hp, Option.getD_some] at hq
    refine ⟨hstate, hdecision, blockKind_eq_some.mpr ⟨p, hp, ?_⟩⟩
    exact (BlockProjector.permissionDecided_accepted_iff (h.typed _ p hp) henv.payload henv.operationId).mp
      ⟨q, blocks, hq⟩
  · rintro ⟨hstate, hdecision, happroval⟩
    obtain ⟨p, hp, hkind⟩ := blockKind_eq_some.mp happroval
    exact accepts_of h rfl hp
      (fun envelope hpayload hid =>
        (OperationReducer.apply_decided_iff hpayload hid hget).mpr ⟨hstate, hdecision⟩)
      fun envelope hpayload hid =>
        (BlockProjector.permissionDecided_accepted_iff (h.typed _ p hp) hpayload hid).mpr hkind

end HyperTerm.Daemon
