import HyperTerm.Core.Projector

/-!
# The kind of a block is for ever

Every block has the kind of its payload (`BlockProjector.Typed`), and no event removes a block or changes its
kind. So whether the projector accepts a change of an existing block depends on the kind of that block alone.
-/

namespace HyperTerm.Core
open HyperTerm.Protocol HyperTerm.Lib

def BlockPayload.kind : BlockPayload → BlockKind
  | .task .. => .task
  | .message .. => .message
  | .operation .. => .operation
  | .approval .. => .approval
  | .operationReceipt .. => .receipt
  | .artifact .. => .artifact
  | .terminal .. => .terminal
  | .review .. => .review
  | .diagnostic .. => .diagnostic
  | .agentToolCall .. => .agentToolCall
  | .agentPlan .. => .agentPlan

theorem payload_of_kind_operation {payload : BlockPayload} (h : BlockPayload.kind payload = .operation) :
    ∃ id kind summary risk capabilities state, payload = .operation id kind summary risk capabilities state := by
  cases payload <;> simp_all [BlockPayload.kind]

theorem payload_of_kind_approval {payload : BlockPayload} (h : BlockPayload.kind payload = .approval) :
    ∃ id revision approval prompt options decision,
      payload = .approval id revision approval prompt options decision := by
  cases payload <;> simp_all [BlockPayload.kind]

namespace BlockProjector

variable {D : Digests} {p p' : BlockProjector} {event : EventEnvelope} {operations : List BlockOperation}
  {block : BlockEnvelope} {sequence : Nat}

def Typed (p : BlockProjector) : Prop :=
  ∀ blockId block, p.blocks.get? blockId = some block → block.kind = BlockPayload.kind block.payload

def kindAt (p : BlockProjector) (blockId : BlockId) : Option BlockKind :=
  (p.blocks.get? blockId).map BlockEnvelope.kind

theorem typed_new (taskId : TaskId) : (new taskId).Typed := fun _ _ h => nomatch h

/-- A filed block keeps its kind and payload, and there was no other kind in its place. -/
theorem upsertOne_eq_ok (h : p.upsertOne block sequence = .ok (p', operations)) :
    (p.kindAt block.blockId = none ∨ p.kindAt block.blockId = some block.kind) ∧
      ∃ filed : BlockEnvelope, filed.blockId = block.blockId ∧ filed.kind = block.kind ∧
        filed.payload = block.payload ∧ p' = { p with blocks := p.blocks.put filed } := by
  simp only [upsertOne, bind_eq_ok, pure_eq_ok, Prod.exists, Prod.mk.injEq] at h
  obtain ⟨q, operation, hup, rfl, -⟩ := h
  unfold upsert at hup
  unfold kindAt
  split at hup
  case h_1 existing hget =>
    split_ifs at hup with hkind
    obtain ⟨rfl, -⟩ := Prod.mk.inj (Except.ok.inj hup)
    rw [hget]
    refine ⟨Or.inr (congrArg some (not_not.mp hkind)), _, ?_, ?_, ?_, rfl⟩ <;> rfl
  case h_2 hget =>
    obtain ⟨rfl, -⟩ := Prod.mk.inj (Except.ok.inj hup)
    rw [hget]
    refine ⟨Or.inl rfl, _, ?_, ?_, ?_, rfl⟩ <;> rfl

theorem upsertOne_accepted (h : p.kindAt block.blockId = none ∨ p.kindAt block.blockId = some block.kind)
    (sequence : Nat) : ∃ p' operations, p.upsertOne block sequence = .ok (p', operations) := by
  unfold upsertOne upsert
  unfold kindAt at h
  cases hget : p.blocks.get? block.blockId with
  | none => exact ⟨_, _, rfl⟩
  | some existing =>
      rw [hget] at h
      have hkind : existing.kind = block.kind := by simpa using h
      dsimp only
      rw [if_neg (not_not.mpr hkind)]
      exact ⟨_, _, rfl⟩

theorem typed_upsertOne (ht : p.Typed) (hblock : block.kind = BlockPayload.kind block.payload)
    (h : p.upsertOne block sequence = .ok (p', operations)) : p'.Typed := by
  obtain ⟨-, filed, hid, hkind, hpayload, rfl⟩ := upsertOne_eq_ok h
  intro blockId b hget
  rw [Keyed.get?_put] at hget
  split_ifs at hget with hb
  · obtain rfl := Option.some.inj hget
    rw [hkind, hpayload, hblock]
  · exact ht blockId b hget

theorem kindAt_upsertOne (h : p.upsertOne block sequence = .ok (p', operations)) (blockId : BlockId) :
    p'.kindAt blockId = if blockId = block.blockId then some block.kind else p.kindAt blockId := by
  obtain ⟨-, filed, hid, hkind, hpayload, rfl⟩ := upsertOne_eq_ok h
  unfold kindAt
  rw [Keyed.get?_put, hid]
  split_ifs <;> simp [hkind]

/-- A step that changes the payload of a block already there. -/
theorem typed_existing {blockId : BlockId} {e : ProjectorError}
    {f : BlockEnvelope → Except ProjectorError (BlockProjector × List BlockOperation)} (ht : p.Typed)
    (hf : ∀ block, block.kind = BlockPayload.kind block.payload → f block = .ok (p', operations) → p'.Typed)
    (h : (do let block ← okOr (p.blocks.get? blockId) e; f block) = .ok (p', operations)) : p'.Typed := by
  obtain ⟨block, hget, hb⟩ := bind_eq_ok.mp h
  exact hf block (ht _ _ (okOr_eq_ok.mp hget)) hb

theorem typed_applyPayload (ht : p.Typed) (h : p.applyPayload D event = .ok (p', operations)) : p'.Typed := by
  unfold applyPayload at h
  split at h
  case h_2 blockId role external text _ =>
    split at h
    case h_1 block hget =>
      have hkind := ht _ _ hget
      split at h
      case h_1 hpayload =>
        split_ifs at h
        obtain ⟨rfl, -⟩ := Prod.mk.inj (Except.ok.inj h)
        intro blockId' b hb
        rw [Keyed.get?_put] at hb
        split_ifs at hb
        · obtain rfl := Option.some.inj hb
          rw [hpayload] at hkind
          exact hkind
        · exact ht _ _ hb
      case h_2 => exact nomatch h
    case h_2 => exact typed_upsertOne ht rfl h
  case h_3 | h_5 | h_7 =>
    obtain ⟨_, -, h⟩ := bind_eq_ok.mp h
    exact typed_upsertOne ht rfl h
  case h_4 | h_6 =>
    obtain ⟨_, -, h⟩ := bind_eq_ok.mp h
    refine typed_existing ht (fun block hkind hb => ?_) h
    split at hb
    case h_1 hpayload => exact typed_upsertOne ht (by rw [hkind, hpayload]; rfl) hb
    case h_2 => exact nomatch hb
  case h_18 | h_19 =>
    refine typed_existing ht (fun block hkind hb => ?_) h
    split at hb
    case h_1 hpayload =>
      split_ifs at hb
      exact typed_upsertOne ht (by rw [hkind, hpayload]; rfl) hb
    case h_2 => exact nomatch hb
  case h_20 =>
    refine typed_existing ht (fun block hkind hb => ?_) h
    split at hb
    case h_1 hpayload => exact typed_upsertOne ht (by rw [hkind, hpayload]; rfl) hb
    case h_2 => exact nomatch hb
  all_goals first
    | exact typed_upsertOne ht rfl h
    | (obtain ⟨rfl, -⟩ := Prod.mk.inj (Except.ok.inj h); exact ht)

theorem kindAt_of_change {blockId : BlockId} {kind : BlockKind} (h : BlockChange p sequence p' operations)
    (hkind : p.kindAt blockId = some kind) : p'.kindAt blockId = some kind := by
  cases h with
  | unchanged => exact hkind
  | filed block h =>
      obtain ⟨ops, hone⟩ : ∃ ops, p.upsertOne block sequence = .ok (p', ops) := ⟨_, bind_eq_ok.mpr ⟨_, h, rfl⟩⟩
      rw [kindAt_upsertOne hone]
      split_ifs with hid
      · rcases (upsertOne_eq_ok hone).1 with hnone | hsome
        · rw [hid, hnone] at hkind
          exact nomatch hkind
        · rw [← hsome, ← hid, hkind]
      · exact hkind
  | appended block role existing text external hget _ =>
      unfold kindAt at hkind ⊢
      rw [Keyed.get?_put]
      split_ifs with hid
      · rw [hid, hget] at hkind
        exact hkind
      · exact hkind

theorem typed_apply {patch : BlockPatch} (ht : p.Typed) (h : p.apply D event = .ok (p', patch)) : p'.Typed := by
  obtain ⟨-, -, q, _, hq, rfl, -⟩ := apply_eq_ok.mp h
  have hq' : q.Typed := typed_applyPayload ht hq
  exact hq'

theorem kindAt_apply {patch : BlockPatch} {blockId : BlockId} {kind : BlockKind}
    (h : p.apply D event = .ok (p', patch)) (hkind : p.kindAt blockId = some kind) : p'.kindAt blockId = some kind := by
  obtain ⟨-, -, q, _, hq, rfl, -⟩ := apply_eq_ok.mp h
  have hq' : q.kindAt blockId = some kind := kindAt_of_change (applyPayload_change hq) hkind
  exact hq'

theorem apply_revision {patch : BlockPatch} (h : p.apply D event = .ok (p', patch)) : p'.revision = event.sequence := by
  obtain ⟨-, -, q, _, -, rfl, -⟩ := apply_eq_ok.mp h
  rfl

/-! ## Events of an operation -/

theorem get?_of_kindAt {blockId : BlockId} {kind : BlockKind} (h : p.kindAt blockId = some kind) :
    ∃ block, p.blocks.get? blockId = some block ∧ block.blockId = blockId ∧ block.kind = kind := by
  obtain ⟨block, hget, rfl⟩ := Option.map_eq_some_iff.mp h
  exact ⟨block, hget, Keyed.key_eq_of_get? hget, rfl⟩

variable {id : OperationId}

theorem kindAt_proposed {revision : Nat} {kind : OperationKind} {action : OperationAction} {summary : String}
    {risk : RiskClass} {capabilities : List String} {patch : BlockPatch}
    (hpayload : event.payload = .operationProposed revision kind action summary risk capabilities)
    (hid : event.operationId = some id) (h : p.apply D event = .ok (p', patch)) :
    p'.kindAt (stableBlockId D "operation" id.uuid.text) = some .operation := by
  obtain ⟨-, -, q, _, hq, rfl, -⟩ := apply_eq_ok.mp h
  simp only [applyPayload, hpayload, hid, okOr, bind_eq_ok, Except.ok.injEq, exists_eq_left'] at hq
  have hkind : q.kindAt (stableBlockId D "operation" id.uuid.text) = some .operation := by
    rw [kindAt_upsertOne hq]
    exact if_pos rfl
  exact hkind

/-- The change of a state is accepted where the operation has its block. -/
theorem stateChanged_accepted (ht : p.Typed) {revision : Nat} {fromState toState : OperationState} {actor : Actor}
    {reason : Option String} (hpayload : event.payload = .operationStateChanged revision fromState toState actor reason)
    (hid : event.operationId = some id)
    (hkind : p.kindAt (stableBlockId D "operation" id.uuid.text) = some .operation) :
    ∃ p' operations, p.applyPayload D event = .ok (p', operations) := by
  obtain ⟨block, hget, hblock, hblockKind⟩ := get?_of_kindAt hkind
  have hpayloadKind := (ht _ _ hget).symm.trans hblockKind
  simp only [applyPayload, hpayload, hid, okOr, hget, bind, Except.bind]
  obtain ⟨_, _, _, _, _, _, hp⟩ := payload_of_kind_operation hpayloadKind
  rw [hp]
  refine upsertOne_accepted (Or.inr ?_) event.sequence
  rw [hblock, hkind, hblockKind]

/-- It files no block that is not there. -/
theorem kindAt_stateChanged {revision : Nat} {fromState toState : OperationState} {actor : Actor}
    {reason : Option String} (hpayload : event.payload = .operationStateChanged revision fromState toState actor reason)
    (h : p.applyPayload D event = .ok (p', operations)) (blockId : BlockId) :
    p'.kindAt blockId = p.kindAt blockId := by
  simp only [applyPayload, hpayload, bind_eq_ok, okOr_eq_ok] at h
  obtain ⟨id, -, block, hget, h⟩ := h
  split at h
  case h_1 =>
    rw [kindAt_upsertOne h]
    split_ifs with hid
    · have hkey : block.blockId = _ := Keyed.key_eq_of_get? hget
      rw [hid, hkey, kindAt, hget]
      rfl
    · rfl
  case h_2 => cases h

theorem get?_upsertOne_of_ne {blockId : BlockId} (h : p.upsertOne block sequence = .ok (p', operations))
    (hne : blockId ≠ block.blockId) : p'.blocks.get? blockId = p.blocks.get? blockId := by
  obtain ⟨-, filed, hid, -, -, rfl⟩ := upsertOne_eq_ok h
  exact Keyed.get?_put_of_ne _ _ (hid ▸ hne)

theorem get?_stateChanged_of_ne {revision : Nat} {fromState toState : OperationState} {actor : Actor}
    {reason : Option String} (hpayload : event.payload = .operationStateChanged revision fromState toState actor reason)
    (hid : event.operationId = some id) (h : p.applyPayload D event = .ok (p', operations)) {blockId : BlockId}
    (hne : blockId ≠ stableBlockId D "operation" id.uuid.text) : p'.blocks.get? blockId = p.blocks.get? blockId := by
  simp only [applyPayload, hpayload, hid, okOr, bind_eq_ok, Except.ok.injEq, exists_eq_left'] at h
  obtain ⟨block, hget, h⟩ := h
  split at hget
  case h_2 => cases hget
  case h_1 block' hget' =>
  obtain rfl := Except.ok.inj hget
  split at h
  case h_1 =>
    have hkey : block'.blockId = stableBlockId D "operation" id.uuid.text := Keyed.key_eq_of_get? hget'
    exact get?_upsertOne_of_ne h fun heq => hne (heq.trans hkey)
  case h_2 => cases h

/-- Filing a block always changes it: the revision grows. -/
theorem get?_upsertOne_ne (h : p.upsertOne block sequence = .ok (p', operations)) :
    p'.blocks.get? block.blockId ≠ p.blocks.get? block.blockId := by
  simp only [upsertOne, bind_eq_ok, pure_eq_ok, Prod.exists, Prod.mk.injEq] at h
  obtain ⟨q, operation, hup, rfl, -⟩ := h
  unfold upsert at hup
  split at hup
  case h_1 existing hget =>
    split_ifs at hup
    obtain ⟨rfl, -⟩ := Prod.mk.inj (Except.ok.inj hup)
    intro heq
    rw [hget, Keyed.get?_put, if_pos rfl] at heq
    exact Nat.succ_ne_self _ (congrArg BlockEnvelope.blockRevision (Option.some.inj heq))
  case h_2 hget =>
    obtain ⟨rfl, -⟩ := Prod.mk.inj (Except.ok.inj hup)
    rw [hget, Keyed.get?_put, if_pos rfl]
    exact Option.some_ne_none _

/-- A receipt is filed over the one before, as another block. -/
theorem get?_receipt {revision : Nat} {executor : String} {succeeded : Bool} {outcome : OperationOutcome}
    {summary : String} {digest : Option String}
    (hpayload : event.payload = .operationReceipt revision executor succeeded (some outcome) summary digest)
    (hid : event.operationId = some id) (h : p.applyPayload D event = .ok (p', operations)) :
    ∃ block, p'.blocks.get? (stableBlockId D "receipt" id.uuid.text) = some block ∧
      p.blocks.get? (stableBlockId D "receipt" id.uuid.text) ≠ some block ∧
      block.payload = .operationReceipt id revision executor outcome.hasSucceeded (some outcome) summary digest := by
  simp only [applyPayload, hpayload, hid, okOr, receiptOutcome, Option.getD_some, bind_eq_ok, Except.ok.injEq,
    exists_eq_left'] at h
  have hne := get?_upsertOne_ne h
  obtain ⟨-, filed, hblock, -, hfiled, rfl⟩ := upsertOne_eq_ok h
  have hkey : filed.blockId = stableBlockId D "receipt" id.uuid.text := hblock
  have hget : (p.blocks.put filed).get? (stableBlockId D "receipt" id.uuid.text) = some filed := by
    rw [Keyed.get?_put, if_pos hkey.symm]
  exact ⟨filed, hget, fun heq => hne (hget.trans heq.symm), hfiled⟩

/-- A decision is accepted exactly where the operation has an approval block. -/
theorem permissionDecided_accepted_iff (ht : p.Typed) {revision : Nat} {decision : PermissionDecision} {actor : Actor}
    (hpayload : event.payload = .permissionDecided revision decision actor) (hid : event.operationId = some id) :
    (∃ p' operations, p.applyPayload D event = .ok (p', operations)) ↔
      p.kindAt (stableBlockId D "approval" id.uuid.text) = some .approval := by
  constructor
  · rintro ⟨p', operations, h⟩
    simp only [applyPayload, hpayload, hid, okOr, bind_eq_ok, Except.ok.injEq, exists_eq_left'] at h
    obtain ⟨block, hget, h⟩ := h
    split at hget
    case h_2 => cases hget
    case h_1 block' hget' =>
    obtain rfl := Except.ok.inj hget
    have hkind := ht _ _ hget'
    rw [kindAt, hget', Option.map_some, hkind]
    split at h
    case h_1 hp => rw [hp]; rfl
    case h_2 => cases h
  · intro hkind
    obtain ⟨block, hget, hblock, hblockKind⟩ := get?_of_kindAt hkind
    have hpayloadKind := (ht _ _ hget).symm.trans hblockKind
    simp only [applyPayload, hpayload, hid, okOr, hget, bind, Except.bind]
    obtain ⟨_, _, _, _, _, _, hp⟩ := payload_of_kind_approval hpayloadKind
    rw [hp]
    refine upsertOne_accepted (Or.inr ?_) event.sequence
    rw [hblock, hkind, hblockKind]

end BlockProjector

end HyperTerm.Core
