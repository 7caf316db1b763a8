import HyperTerm.Core.PatchStream

/-!
# Coalesced patches

The Agent stream merges the patches that arrive within one frame (`coalesce`). Where the separate patches are
accepted one after another, so is the merged one, and it yields the same blocks but for one field: an append stamps its
block with the target revision of the patch it stands in, and in the merged patch that is the last one.

* `effect` : what one operation makes of the block it is about;
* `Restamped` : a client that applied the merged patch so far, next to one that applied the separate ones;
* `coalesced_exact_iff` : when both end in the same document.
-/

namespace HyperTerm.Daemon
open HyperTerm.Protocol HyperTerm.Core HyperTerm.Lib

/-! ## The merge -/

/-- The patch that is sent for those of one frame, and whether there was a gap between two of them. -/
def coalesce (patch : BlockPatch) : List BlockPatch → BlockPatch × Bool
  | [] => (patch, false)
  | next :: rest =>
      if next.baseRevision ≠ patch.targetRevision then
        ({ patch with streamSequence := next.streamSequence, targetRevision := next.targetRevision }, true)
      else
        coalesce { patch with
          streamSequence := next.streamSequence
          targetRevision := next.targetRevision
          operations := patch.operations ++ next.operations } rest

def BlockOperation.blockId : BlockOperation → BlockId
  | .upsert block => block.blockId
  | .appendContent blockId _ _ _ => blockId
  | .remove blockId => blockId

def BlockOperation.isAppend : BlockOperation → Bool
  | .appendContent .. => true
  | _ => false

/-- The operations of some patches, each with the target revision of its patch. -/
def targeted (patches : List BlockPatch) : List (Nat × BlockOperation) :=
  patches.flatMap fun patch => patch.operations.map fun operation => (patch.targetRevision, operation)

/-- The last operation about a block. -/
def lastOperation (operations : List (Nat × BlockOperation)) (blockId : BlockId) : Option (Nat × BlockOperation) :=
  (operations.filter fun o => BlockOperation.blockId o.2 = blockId).getLast?

/-- No block was last changed by an append of an earlier target revision. -/
def AppendsAtEnd (final : Nat) (operations : List (Nat × BlockOperation)) : Prop :=
  ∀ blockId target operation, lastOperation operations blockId = some (target, operation) →
    BlockOperation.isAppend operation = true → target = final

@[simp] theorem lastOperation_nil (blockId : BlockId) : lastOperation [] blockId = none := rfl

theorem lastOperation_concat (operations : List (Nat × BlockOperation)) (o : Nat × BlockOperation)
    (blockId : BlockId) : lastOperation (operations ++ [o]) blockId =
      if blockId = BlockOperation.blockId o.2 then some o else lastOperation operations blockId := by
  unfold lastOperation
  rw [List.filter_append]
  by_cases h : BlockOperation.blockId o.2 = blockId
  · simp [h]
  · have hne : ¬blockId = BlockOperation.blockId o.2 := fun heq => h heq.symm
    simp [h, hne]

/-! ## One operation -/

def appendedTo (targetRevision blockRevision : Nat) (text : String) (block : BlockEnvelope) (role : MessageRole)
    (existing : String) (externalMessageId : Option String) : BlockEnvelope :=
  { block with
    payload := .message role (existing ++ text) externalMessageId
    blockRevision
    documentRevision := targetRevision }

/-- What an operation makes of the block that is found under its id. -/
def effect (targetRevision : Nat) (found : Option BlockEnvelope) :
    BlockOperation → Except ProjectorError (Option BlockEnvelope)
  | .upsert block =>
      if found.any fun existing => existing.kind ≠ block.kind then .error (.blockKindMismatch block.blockId)
      else .ok (some block)
  | .appendContent blockId expectedPreviousRevision blockRevision text => do
      let block ← okOr found (.missingBlock blockId)
      if block.blockRevision ≠ expectedPreviousRevision then
        .error (.blockRevisionMismatch block.blockRevision expectedPreviousRevision)
      else
        match block.payload with
        | .message role existing externalMessageId =>
            .ok (some (appendedTo targetRevision blockRevision text block role existing externalMessageId))
        | _ => .error (.blockKindMismatch blockId)
  | .remove _ => .ok none

def ids (blocks : List BlockEnvelope) : List BlockId := blocks.map BlockEnvelope.blockId

theorem ids_append_singleton {l : List BlockEnvelope} {b : BlockEnvelope} (hl : (ids l).Nodup)
    (hb : BlockDocument.find? l b.blockId = none) : (ids (l ++ [b])).Nodup := by
  unfold ids at hl ⊢
  rw [List.map_append, List.map_singleton]
  refine hl.append (List.nodup_singleton _) (List.disjoint_singleton.mpr fun hmem => ?_)
  obtain ⟨a, ha, hid⟩ := List.mem_map.mp hmem
  exact find?_key_eq_none.mp hb a ha hid

/-- An operation changes the block it is about, as far as it finds it, and no other. -/
theorem applyOperation_eq_ok {t : Nat} {l l' : List BlockEnvelope} {operation : BlockOperation}
    (h : applyOperation t l operation = .ok l') :
    ∃ after, effect t (BlockDocument.find? l (BlockOperation.blockId operation)) operation = .ok after ∧
      ((ids l).Nodup → (ids l').Nodup) ∧
      ∀ blockId, BlockDocument.find? l' blockId =
        if blockId = BlockOperation.blockId operation then after else BlockDocument.find? l blockId := by
  cases operation with
  | upsert block =>
      simp only [applyOperation] at h
      split at h
      case h_1 existing hget =>
        split_ifs at h with hkind
        obtain rfl := Except.ok.inj h
        refine ⟨some block, ?_, fun hl => ?_, fun blockId => ?_⟩
        · simp only [effect, BlockOperation.blockId, hget, Option.any_some]
          rw [if_neg (by simpa using hkind)]
        · rw [ids, map_updateFirst fun _ _ => rfl]
          exact hl
        · refine (findKey_updateFirst rfl l blockId).trans ?_
          rw [show findKey BlockEnvelope.blockId block.blockId l = some existing from hget]
          rfl
      case h_2 hget =>
        obtain rfl := Except.ok.inj h
        refine ⟨some block, by simp [effect, BlockOperation.blockId, hget], fun hl => ids_append_singleton hl hget,
          fun blockId => (findKey_append_singleton l block blockId).trans ?_⟩
        unfold BlockOperation.blockId
        split_ifs with hid
        · rw [hid, show findKey BlockEnvelope.blockId block.blockId l = none from hget]
          rfl
        · exact Option.or_none
  | appendContent id expected revision text =>
      simp only [applyOperation, bind_eq_ok, okOr_eq_ok] at h
      obtain ⟨block, hget, h⟩ := h
      split_ifs at h with hrevision
      split at h
      case h_2 => cases h
      case h_1 role existing external hpayload =>
      obtain rfl := Except.ok.inj h
      have hid : (appendedTo t revision text block role existing external).blockId = id :=
        (key_of_findKey hget : block.blockId = id)
      refine ⟨some (appendedTo t revision text block role existing external), ?_, fun hl => ?_, fun blockId => ?_⟩
      · simp only [effect, BlockOperation.blockId, hget, okOr, bind, Except.bind, hpayload]
        rw [if_neg hrevision]
      · exact Eq.mpr (congrArg List.Nodup (map_updateFirst (fun _ _ => hid) l)) hl
      · refine (findKey_updateFirst hid l blockId).trans ?_
        rw [show findKey BlockEnvelope.blockId id l = some block from hget]
        rfl
  | remove id =>
      obtain rfl := Except.ok.inj h
      refine ⟨none, rfl, fun hl => ?_, fun blockId => findKey_filter_ne l id blockId⟩
      exact hl.sublist (List.filter_sublist.map _)

theorem applyOperation_of_effect {t : Nat} {l : List BlockEnvelope} {operation : BlockOperation}
    {after : Option BlockEnvelope}
    (h : effect t (BlockDocument.find? l (BlockOperation.blockId operation)) operation = .ok after) :
    ∃ l', applyOperation t l operation = .ok l' := by
  cases operation with
  | upsert block =>
      simp only [applyOperation]
      split
      case h_1 existing hget =>
        simp only [effect, BlockOperation.blockId, hget, Option.any_some] at h
        split_ifs at h with hkind
        exact ⟨_, if_neg (by simpa using hkind)⟩
      case h_2 => exact ⟨_, rfl⟩
  | appendContent id expected revision text =>
      simp only [effect, BlockOperation.blockId, bind_eq_ok, okOr_eq_ok] at h
      obtain ⟨block, hget, h⟩ := h
      split_ifs at h with hrevision
      split at h
      case h_1 role existing external hpayload =>
        simp only [applyOperation, bind_eq_ok, okOr_eq_ok]
        refine ⟨updateFirst (fun b => b.blockId = id)
          (fun _ => appendedTo t revision text block role existing external) l, block, hget, ?_⟩
        rw [if_neg hrevision, hpayload]
        rfl
      case h_2 => cases h
  | remove id => exact ⟨_, rfl⟩

/-! ## Separate and merged patches side by side -/

def stamped (revision : Nat) (block : BlockEnvelope) : BlockEnvelope := { block with documentRevision := revision }

/-- The block that the merged patch leaves where the separate ones leave `block`. -/
def restamp (final : Nat) (done : List (Nat × BlockOperation)) (block : BlockEnvelope) : BlockEnvelope :=
  match lastOperation done block.blockId with
  | some (_, .appendContent ..) => stamped final block
  | _ => block

/-- The blocks `l` of the separate patches and the blocks `m` of the merged one after the operations `done`. -/
structure Restamped (final : Nat) (done : List (Nat × BlockOperation)) (l m : List BlockEnvelope) : Prop where
  nodup : (ids l).Nodup
  nodup' : (ids m).Nodup
  found : ∀ blockId, BlockDocument.find? m blockId = (BlockDocument.find? l blockId).map (restamp final done)
  stamp : ∀ blockId target operation, lastOperation done blockId = some (target, operation) →
    BlockOperation.isAppend operation = true →
      ∃ block, BlockDocument.find? l blockId = some block ∧ block.documentRevision = target

theorem restamp_kind (final : Nat) (done : List (Nat × BlockOperation)) (block : BlockEnvelope) :
    (restamp final done block).kind = block.kind := by
  unfold restamp
  split <;> rfl

/-- The effect of an operation does not look at the stamp of the block it finds. -/
theorem effect_restamp {t final : Nat} {found after : Option BlockEnvelope} {operation : BlockOperation}
    {done : List (Nat × BlockOperation)} (h : effect t found operation = .ok after) :
    effect final (found.map (restamp final done)) operation =
        .ok (if BlockOperation.isAppend operation then after.map (stamped final) else after) ∧
      ∀ block, after = some block → BlockOperation.isAppend operation = true → block.documentRevision = t := by
  cases operation with
  | upsert block =>
      simp only [effect] at h ⊢
      split_ifs at h with hkind
      obtain rfl := Except.ok.inj h
      refine ⟨?_, fun _ _ hfalse => absurd hfalse Bool.false_ne_true⟩
      rw [if_neg]
      · rfl
      · simpa only [Option.any_map, Function.comp_def, restamp_kind] using hkind
  | appendContent id expected revision text =>
      simp only [effect, bind_eq_ok, okOr_eq_ok] at h
      obtain ⟨block, rfl, h⟩ := h
      split_ifs at h with hrevision
      split at h
      case h_2 => cases h
      case h_1 role existing external hpayload =>
      obtain rfl := Except.ok.inj h
      have hblock : (restamp final done block).blockRevision = block.blockRevision ∧
          (restamp final done block).payload = block.payload ∧
          appendedTo final revision text (restamp final done block) role existing external =
            stamped final (appendedTo t revision text block role existing external) := by
        unfold restamp
        split <;> exact ⟨rfl, rfl, rfl⟩
      obtain ⟨hsame, hpayload', hstamped⟩ := hblock
      refine ⟨?_, fun b hb _ => Option.some.inj hb ▸ rfl⟩
      simp only [effect, Option.map_some, okOr, bind, Except.bind, hsame, hpayload', hpayload]
      rw [if_neg hrevision, hstamped]
      rfl
  | remove id =>
      obtain rfl := Except.ok.inj h
      refine ⟨rfl, fun _ hnone => ?_⟩
      cases hnone

theorem restamp_concat (final : Nat) (done : List (Nat × BlockOperation)) (o : Nat × BlockOperation)
    (block : BlockEnvelope) : restamp final (done ++ [o]) block =
      if block.blockId = BlockOperation.blockId o.2 then
        if BlockOperation.isAppend o.2 then stamped final block else block
      else restamp final done block := by
  unfold restamp
  rw [lastOperation_concat]
  split_ifs with hid happend
  · obtain ⟨t, operation⟩ := o
    cases operation <;> first | rfl | cases happend
  · obtain ⟨t, operation⟩ := o
    cases operation <;> first | rfl | exact absurd rfl happend
  · rfl

/-- One operation keeps the two clients side by side. -/
theorem Restamped.operation {t final : Nat} {done : List (Nat × BlockOperation)} {l l' m : List BlockEnvelope}
    {operation : BlockOperation} (hr : Restamped final done l m) (h : applyOperation t l operation = .ok l') :
    ∃ m', applyOperation final m operation = .ok m' ∧ Restamped final (done ++ [(t, operation)]) l' m' := by
  obtain ⟨after, heffect, hnodup, hfind⟩ := applyOperation_eq_ok h
  obtain ⟨heffect', hstamp⟩ := @effect_restamp t final _ _ operation done heffect
  rw [← hr.found] at heffect'
  obtain ⟨m', hm'⟩ := applyOperation_of_effect heffect'
  obtain ⟨after', heq, hnodup', hfind'⟩ := applyOperation_eq_ok hm'
  obtain rfl := Except.ok.inj (heq.symm.trans heffect')
  have hkey (block : BlockEnvelope) (hafter : after = some block) :
      block.blockId = BlockOperation.blockId operation := by
    refine key_of_findKey (l := l') ((hfind _).trans ?_)
    rw [if_pos rfl, hafter]
  refine ⟨m', hm', hnodup hr.nodup, hnodup' hr.nodup', fun blockId => ?_, fun blockId target last hlast happend => ?_⟩
  · rw [hfind, hfind']
    by_cases hid : blockId = BlockOperation.blockId operation
    · rw [if_pos hid, if_pos hid]
      cases hafter : after with
      | none => cases BlockOperation.isAppend operation <;> rfl
      | some block =>
          rw [Option.map_some, Option.map_some, restamp_concat, if_pos (hkey block hafter)]
          cases BlockOperation.isAppend operation <;> rfl
    · rw [if_neg hid, if_neg hid, hr.found]
      refine Option.map_congr fun block hblock => ?_
      rw [restamp_concat, if_neg]
      rwa [show block.blockId = blockId from key_of_findKey hblock]
  · rw [lastOperation_concat] at hlast
    rw [hfind]
    by_cases hid : blockId = BlockOperation.blockId operation
    · rw [if_pos hid] at hlast ⊢
      obtain ⟨rfl, rfl⟩ := Prod.mk.inj (Option.some.inj hlast)
      cases hafter : after with
      | none =>
          -- An append leaves the block it found.
          cases operation with
          | appendContent id expected revision text =>
              simp only [effect, bind_eq_ok, okOr_eq_ok] at heffect
              obtain ⟨block, -, heffect⟩ := heffect
              split_ifs at heffect
              split at heffect
              · rw [hafter] at heffect
                cases heffect
              · cases heffect
          | upsert => cases happend
          | remove => cases happend
      | some block => exact ⟨block, rfl, hstamp block hafter happend⟩
    · rw [if_neg hid] at hlast ⊢
      exact hr.stamp blockId target last hlast happend

theorem Restamped.operations {t final : Nat} {operations : List BlockOperation}
    {done : List (Nat × BlockOperation)} {l l' m : List BlockEnvelope} (hr : Restamped final done l m)
    (h : operations.foldlM (applyOperation t) l = .ok l') :
    ∃ m', operations.foldlM (applyOperation final) m = .ok m' ∧
      Restamped final (done ++ operations.map fun operation => (t, operation)) l' m' := by
  induction operations generalizing done l m with
  | nil =>
      obtain rfl := Except.ok.inj h
      exact ⟨m, rfl, by simpa using hr⟩
  | cons operation operations ih =>
      rw [List.foldlM_cons, bind_eq_ok] at h
      obtain ⟨l₁, h₁, h₂⟩ := h
      obtain ⟨m₁, hm₁, hr₁⟩ := hr.operation h₁
      obtain ⟨m', hm', hr'⟩ := ih hr₁ h₂
      refine ⟨m', ?_, by simpa using hr'⟩
      rw [List.foldlM_cons, hm₁]
      exact hm'

theorem Restamped.sort {final : Nat} {done : List (Nat × BlockOperation)} {l m : List BlockEnvelope}
    (hr : Restamped final done l m) : Restamped final done (sortByKey sortKey l) m := by
  have hfind (blockId : BlockId) : BlockDocument.find? (sortByKey sortKey l) blockId = BlockDocument.find? l blockId :=
    findKey_sortByKey hr.nodup blockId
  refine ⟨nodup_map_sortByKey hr.nodup, hr.nodup', fun blockId => ?_, fun blockId => ?_⟩
  · rw [hfind, hr.found]
  · rw [hfind]
    exact hr.stamp blockId

variable {D : Digests}

theorem applyPatch_eq_ok {document document' : BlockDocument} {patch : BlockPatch} :
    applyPatch D document patch = .ok document' ↔ document.revision = patch.baseRevision ∧
      ∃ blocks, patch.operations.foldlM (applyOperation patch.targetRevision) document.blocks = .ok blocks ∧
        document' = { document with
          blocks := sortByKey sortKey blocks
          revision := patch.targetRevision
          semanticDigest := documentDigest D document.taskId patch.targetRevision (sortByKey sortKey blocks) } := by
  unfold applyPatch
  split_ifs with hbase
  · refine ⟨fun h => ?_, fun h => absurd h.1 hbase⟩
    cases h
  · simp only [bind_eq_ok, pure_eq_ok]
    constructor
    · rintro ⟨blocks, hblocks, heq⟩
      exact ⟨not_not.mp hbase, blocks, hblocks, heq.symm⟩
    · rintro ⟨-, blocks, hblocks, rfl⟩
      exact ⟨blocks, hblocks, rfl⟩

/-- The patches of a frame keep the two clients side by side. -/
theorem Restamped.patches {final : Nat} {patches : List BlockPatch} {document document' : BlockDocument}
    {done : List (Nat × BlockOperation)} {m : List BlockEnvelope} (hr : Restamped final done document.blocks m)
    (h : applyPatches D document patches = .ok document') :
    ∃ m', (patches.flatMap BlockPatch.operations).foldlM (applyOperation final) m = .ok m' ∧
      Restamped final (done ++ targeted patches) document'.blocks m' := by
  induction patches generalizing document done m with
  | nil =>
      obtain rfl := Except.ok.inj h
      exact ⟨m, rfl, by simpa [targeted] using hr⟩
  | cons patch patches ih =>
      rw [applyPatches, List.foldlM_cons, bind_eq_ok] at h
      obtain ⟨document₁, h₁, h₂⟩ := h
      obtain ⟨-, blocks, hblocks, rfl⟩ := applyPatch_eq_ok.mp h₁
      obtain ⟨m₁, hm₁, hr₁⟩ := hr.operations hblocks
      have hr₂ : Restamped final _ (BlockDocument.blocks { document with
          blocks := sortByKey sortKey blocks
          revision := patch.targetRevision
          semanticDigest := documentDigest D document.taskId patch.targetRevision (sortByKey sortKey blocks) }) m₁ :=
        hr₁.sort
      obtain ⟨m', hm', hr'⟩ := ih hr₂ h₂
      refine ⟨m', ?_, by simpa [targeted] using hr'⟩
      rw [List.flatMap_cons, List.foldlM_append, hm₁]
      exact hm'

/-- Two such clients show the same blocks exactly where no stale append is the last change of one. -/
theorem Restamped.sort_eq_iff {final : Nat} {done : List (Nat × BlockOperation)} {l m : List BlockEnvelope}
    (hr : Restamped final done l m) :
    sortByKey sortKey m = sortByKey sortKey l ↔ AppendsAtEnd final done := by
  rw [sortByKey_eq_iff (fun _ _ => sortKey_blockId) hr.nodup' hr.nodup]
  constructor
  · intro h blockId target operation hlast happend
    obtain ⟨block, hblock, hstamp⟩ := hr.stamp blockId target operation hlast happend
    have hsame : BlockDocument.find? m blockId = BlockDocument.find? l blockId := h blockId
    have hid : block.blockId = blockId := key_of_findKey hblock
    rw [hr.found, hblock, Option.map_some, restamp, hid, hlast] at hsame
    cases operation with
    | appendContent => exact hstamp ▸ congrArg BlockEnvelope.documentRevision (Option.some.inj hsame).symm
    | upsert => cases happend
    | remove => cases happend
  · intro h blockId
    refine (hr.found blockId).trans ?_
    cases hblock : BlockDocument.find? l blockId with
    | none => exact hblock.symm
    | some block =>
        have hid : block.blockId = blockId := key_of_findKey hblock
        refine Eq.trans ?_ hblock.symm
        rw [Option.map_some, restamp, hid]
        split
        case h_1 target id expected revision text hlast =>
          obtain ⟨block', hblock', hstamp⟩ := hr.stamp blockId target _ hlast rfl
          obtain rfl := Option.some.inj (hblock.symm.trans hblock')
          rw [stamped, ← h blockId target _ hlast rfl, ← hstamp]
        case h_2 => rfl

/-! ## The stream -/

/-- The patches lead from one revision to the next, and the merge of them from the first to the last. -/
theorem coalesce_accepted {patch : BlockPatch} {rest : List BlockPatch} {document document' : BlockDocument}
    (h : applyPatches D document (patch :: rest) = .ok document') :
    ∃ merged, coalesce patch rest = (merged, false) ∧ merged.baseRevision = document.revision ∧
      merged.targetRevision = document'.revision ∧
      merged.operations = (patch :: rest).flatMap BlockPatch.operations := by
  rw [applyPatches, List.foldlM_cons, bind_eq_ok] at h
  obtain ⟨document₁, h₁, h⟩ := h
  obtain ⟨hbase, _, -, hdocument₁⟩ := applyPatch_eq_ok.mp h₁
  have hrevision : document₁.revision = patch.targetRevision := by rw [hdocument₁]
  clear h₁ hdocument₁
  induction rest generalizing patch document₁ with
  | nil =>
      obtain rfl := Except.ok.inj h
      exact ⟨patch, rfl, hbase.symm, hrevision.symm, by simp⟩
  | cons next rest ih =>
      rw [List.foldlM_cons, bind_eq_ok] at h
      obtain ⟨document₂, h₂, h⟩ := h
      obtain ⟨hnext, _, -, hdocument₂⟩ := applyPatch_eq_ok.mp h₂
      have hrevision₂ : document₂.revision = next.targetRevision := by rw [hdocument₂]
      let extended : BlockPatch := { patch with
        streamSequence := next.streamSequence
        targetRevision := next.targetRevision
        operations := patch.operations ++ next.operations }
      have hbase' : document.revision = extended.baseRevision := hbase
      have htarget : document₂.revision = extended.targetRevision := hrevision₂
      obtain ⟨merged, hmerged, hb, ht, hops⟩ := ih document₂ h hbase' htarget
      refine ⟨merged, ?_, hb, ht, by simpa [extended] using hops⟩
      rw [coalesce, if_neg (by rw [← hnext, hrevision]; exact fun hne => hne rfl), hmerged]

theorem applyPatches_meta {patches : List BlockPatch} {document document' : BlockDocument}
    (h : applyPatches D document patches = .ok document') :
    document'.schemaVersion = document.schemaVersion ∧ document'.taskId = document.taskId := by
  induction patches generalizing document with
  | nil =>
      obtain rfl := Except.ok.inj h
      exact ⟨rfl, rfl⟩
  | cons patch patches ih =>
      rw [applyPatches, List.foldlM_cons, bind_eq_ok] at h
      obtain ⟨document₁, h₁, h₂⟩ := h
      obtain ⟨-, _, -, rfl⟩ := applyPatch_eq_ok.mp h₁
      have hrest := ih h₂
      exact hrest

/-- What separate patches end in is sorted and bears its own digest. -/
theorem applyPatches_sorted {patches : List BlockPatch} (hne : patches ≠ []) {document document' : BlockDocument}
    (h : applyPatches D document patches = .ok document') :
    ∃ blocks, document'.blocks = sortByKey sortKey blocks ∧
      document'.semanticDigest = documentDigest D document'.taskId document'.revision document'.blocks := by
  induction patches using List.reverseRecOn with
  | nil => exact absurd rfl hne
  | append_singleton patches patch _ =>
      obtain ⟨document₁, -, h₁⟩ := foldlM_concat_eq_ok.mp h
      obtain ⟨-, blocks, -, rfl⟩ := applyPatch_eq_ok.mp h₁
      exact ⟨blocks, rfl, rfl⟩

theorem ids_snapshot (p : BlockProjector) : (ids (p.snapshot D).blocks).Nodup :=
  nodup_map_sortByKey p.blocks.nodup_values

/-- **When coalescing is exact.** For every document without a repeated block id and all patches that are accepted on
it one after another, the stream finds no gap, the merged patch is accepted too, and it yields the same document if
and only if every block whose last operation is an append has it at the last target revision. -/
theorem coalesced_exact_iff (D : Digests) (document document' : BlockDocument) (patch : BlockPatch)
    (rest : List BlockPatch) (hids : (ids document.blocks).Nodup)
    (h : applyPatches D document (patch :: rest) = .ok document') :
    ∃ merged, coalesce patch rest = (merged, false) ∧ (∃ document'', applyPatch D document merged = .ok document'') ∧
      (applyPatch D document merged = .ok document' ↔
        AppendsAtEnd merged.targetRevision (targeted (patch :: rest))) := by
  obtain ⟨merged, hmerged, hbase, htarget, hops⟩ := coalesce_accepted h
  have hstart : Restamped merged.targetRevision [] document.blocks document.blocks :=
    ⟨hids, hids, fun blockId => by cases BlockDocument.find? document.blocks blockId <;> rfl,
      fun _ _ _ hlast => nomatch hlast⟩
  obtain ⟨blocks, hblocks, hr⟩ := hstart.patches h
  rw [← hops] at hblocks
  have haccepted : applyPatch D document merged = .ok { document with
      blocks := sortByKey sortKey blocks
      revision := merged.targetRevision
      semanticDigest := documentDigest D document.taskId merged.targetRevision (sortByKey sortKey blocks) } :=
    applyPatch_eq_ok.mpr ⟨hbase.symm, blocks, hblocks, rfl⟩
  refine ⟨merged, hmerged, ⟨_, haccepted⟩, ?_⟩
  obtain ⟨last, hsorted, hdigest⟩ := applyPatches_sorted (List.cons_ne_nil patch rest) h
  obtain ⟨hschema, htask⟩ := applyPatches_meta h
  have hself : sortByKey sortKey document'.blocks = document'.blocks := by
    rw [hsorted]
    refine sortByKey_eq (fun _ _ => sortKey_blockId) ?_ ?_ fun a => mem_sortByKey
    · exact hsorted ▸ hr.nodup
    · exact (((sortByKey_perm sortKey last).map BlockEnvelope.blockId).nodup_iff).mp (hsorted ▸ hr.nodup)
  rw [haccepted, Except.ok.injEq, ← List.nil_append (targeted (patch :: rest)), ← hr.sort_eq_iff, hself]
  constructor
  · intro heq
    exact congrArg BlockDocument.blocks heq
  · intro heq
    obtain ⟨schema, task, revision, digest, blocks'⟩ := document'
    obtain ⟨rfl, rfl⟩ : schema = document.schemaVersion ∧ task = document.taskId := ⟨hschema, htask⟩
    simp only [BlockDocument.mk.injEq]
    refine ⟨trivial, trivial, htarget, ?_, heq⟩
    rw [heq, htarget]
    exact hdigest.symm

/-! ## A concrete frame -/

def sampleMessage : BlockEnvelope :=
  { BlockEnvelope.new ⟨7⟩ sampleTask .message 2 (.message .agent "hello " (some "agent-1")) with documentRevision := 2 }

def sampleReview : BlockEnvelope :=
  { BlockEnvelope.new ⟨8⟩ sampleTask .review 4 (.review "done") with documentRevision := 4 }

def sampleDocument : BlockDocument where
  schemaVersion := blockSchemaVersion
  taskId := sampleTask
  revision := 2
  semanticDigest := documentDigest sampleDigests sampleTask 2 [sampleMessage]
  blocks := [sampleMessage]

def appendPatch : BlockPatch := ⟨3, 2, 3, [.appendContent ⟨7⟩ 1 2 "world"]⟩

def reviewPatch : BlockPatch := ⟨4, 3, 4, [.upsert sampleReview]⟩

def appendPatch' : BlockPatch := ⟨5, 4, 5, [.appendContent ⟨7⟩ 2 3 "!"]⟩

/-- A frame whose last patch appends to the message again. -/
theorem coalesced_exact_iff_restamped :
    (ids sampleDocument.blocks).Nodup ∧ ∃ document' merged,
      applyPatches sampleDigests sampleDocument [appendPatch, reviewPatch, appendPatch'] = .ok document' ∧
      coalesce appendPatch [reviewPatch, appendPatch'] = (merged, false) ∧
      (applyPatch sampleDigests sampleDocument merged = .ok document' ↔
        AppendsAtEnd merged.targetRevision (targeted [appendPatch, reviewPatch, appendPatch'])) := by
  have hids : (ids sampleDocument.blocks).Nodup := by decide
  obtain ⟨merged, hmerged, -, hiff⟩ := coalesced_exact_iff sampleDigests sampleDocument _ appendPatch
    [reviewPatch, appendPatch'] hids rfl
  exact ⟨hids, _, merged, rfl, hmerged, hiff⟩

def CoalescingExact (D : Digests) : Prop :=
  ∀ document document' patch rest, applyPatches D document (patch :: rest) = .ok document' →
    ∃ merged, coalesce patch rest = (merged, false) ∧ applyPatch D document merged = .ok document'

/-- An append followed, in the same frame, by a review: the message ends with the stamp of the review's patch. -/
theorem early_append_restamped : ¬CoalescingExact sampleDigests := by
  intro h
  obtain ⟨merged, hmerged, heq⟩ := h sampleDocument _ appendPatch [reviewPatch] rfl
  obtain rfl := (Prod.mk.inj hmerged).1
  have hstamps := congrArg (fun r => r.toOption.map fun d => d.blocks.map BlockEnvelope.documentRevision) heq
  exact absurd hstamps (by decide)

end HyperTerm.Daemon
