import HyperTerm.Core.Projector

/-!
# Snapshots and patches show the same document

The projector changes its blocks in place and a client changes its copy from patches. One patch takes the
snapshot before an event to the snapshot after it (`applyPatch_snapshot`); over a run of events, a client
that starts from any intermediate snapshot ends in the last one, which is also that of a replay.
-/

namespace HyperTerm.Core
open HyperTerm.Protocol HyperTerm.Lib

variable (D : Digests)

/-- The projector fed one event after another, with the patches it returned. -/
def BlockProjector.applyAll (p : BlockProjector) :
    List EventEnvelope → Except ProjectorError (BlockProjector × List BlockPatch)
  | [] => .ok (p, [])
  | event :: events => do
      let (p, patch) ← p.apply D event
      let (p, patches) ← p.applyAll events
      return (p, patch :: patches)

def applyPatches (document : BlockDocument) (patches : List BlockPatch) : Except ProjectorError BlockDocument :=
  patches.foldlM (applyPatch D) document

variable {D}

/-! ## One event -/

theorem sortKey_blockId {a b : BlockEnvelope} (h : sortKey a = sortKey b) : a.blockId = b.blockId := by
  simp only [sortKey, EmbeddingLike.apply_eq_iff_eq, Prod.mk.injEq] at h
  obtain ⟨⟨u⟩, ⟨v⟩⟩ : BlockId × BlockId := (a.blockId, b.blockId)
  cases ha : a.blockId with
  | mk u =>
    cases hb : b.blockId with
    | mk v =>
        rw [ha, hb] at h
        exact congrArg BlockId.mk (BitVec.eq_of_toNat_eq h.2)

/-- A filed block reaches a client that shows the projector's blocks. -/
theorem applyOperation_filed {p p' : BlockProjector} {block : BlockEnvelope} {operation : BlockOperation}
    {sequence : Nat} {l : List BlockEnvelope} (hl : Lists l p.blocks)
    (h : p.upsert block sequence = .ok (p', operation)) :
    ∃ l', applyOperation sequence l operation = .ok l' ∧ Lists l' p'.blocks := by
  unfold BlockProjector.upsert at h
  cases hget : p.blocks.get? block.blockId with
  | some existing =>
      simp only [hget] at h
      split_ifs at h with hkind
      obtain ⟨rfl, rfl⟩ := Prod.mk.inj (Except.ok.inj h)
      refine ⟨_, ?_, hl.overwrite hget⟩
      have hfind : BlockDocument.find? l block.blockId = some existing := (hl.find? _).trans hget
      simp only [applyOperation, hfind]
      rw [if_neg hkind]
  | none =>
      simp only [hget] at h
      obtain ⟨rfl, rfl⟩ := Prod.mk.inj (Except.ok.inj h)
      refine ⟨_, ?_, hl.push hget⟩
      have hfind : BlockDocument.find? l block.blockId = none := (hl.find? _).trans hget
      simp only [applyOperation, hfind]

theorem BlockChange.applyOperations {p p' : BlockProjector} {sequence : Nat} {operations : List BlockOperation}
    {l : List BlockEnvelope} (h : BlockChange p sequence p' operations) (hl : Lists l p.blocks) :
    ∃ l', operations.foldlM (applyOperation sequence) l = .ok l' ∧ Lists l' p'.blocks := by
  cases h with
  | unchanged => exact ⟨l, rfl, hl⟩
  | filed block h =>
      obtain ⟨l', hop, hl'⟩ := applyOperation_filed hl h
      exact ⟨l', by simp [hop], hl'⟩
  | appended block role existing text external hget hpayload =>
      let block' : BlockEnvelope := { block with
        payload := .message role (existing ++ text) external
        blockRevision := block.blockRevision + 1
        documentRevision := sequence }
      refine ⟨updateFirst (fun b => b.blockId = block.blockId) (fun _ => block') l, ?_,
        hl.overwrite (b := block') hget⟩
      have hfind : BlockDocument.find? l block.blockId = some block := (hl.find? _).trans hget
      simp [applyOperation, hfind, hpayload, okOr, bind, Except.bind, pure, Except.pure, block']

/-- One patch takes the snapshot before an event to the snapshot after it. -/
theorem applyPatch_snapshot {p p' : BlockProjector} {event : EventEnvelope} {patch : BlockPatch}
    (h : p.apply D event = .ok (p', patch)) : applyPatch D (p.snapshot D) patch = .ok (p'.snapshot D) := by
  obtain ⟨-, -, q, operations, hq, rfl, rfl⟩ := BlockProjector.apply_eq_ok.mp h
  have hchange := BlockProjector.applyPayload_change hq
  obtain ⟨l, hops, hl⟩ := hchange.applyOperations ((lists_values p.blocks).sort sortKey)
  have hsort : sortByKey sortKey l = sortByKey sortKey q.blocks.values :=
    hl.sortByKey_eq fun _ _ => sortKey_blockId
  simp only [applyPatch, BlockProjector.snapshot, ne_eq, not_true_eq_false, if_false, hops]
  simp only [bind, Except.bind, pure, Except.pure, hsort, BlockProjector.change_taskId hchange]

/-! ## Runs of events -/

theorem BlockProjector.applyAll_append {p p' : BlockProjector} {events events' : List EventEnvelope}
    {patches : List BlockPatch} :
    p.applyAll D (events ++ events') = .ok (p', patches) ↔
      ∃ q patches₁ patches₂, p.applyAll D events = .ok (q, patches₁) ∧
        q.applyAll D events' = .ok (p', patches₂) ∧ patches = patches₁ ++ patches₂ := by
  induction events generalizing p p' patches with
  | nil =>
      simp only [List.nil_append, applyAll, Except.ok.injEq, Prod.mk.injEq]
      exact ⟨fun h => ⟨p, [], patches, ⟨rfl, rfl⟩, h, rfl⟩, by rintro ⟨_, _, _, ⟨rfl, rfl⟩, h, rfl⟩; exact h⟩
  | cons event events ih =>
      simp only [List.cons_append, applyAll, bind_eq_ok, pure_eq_ok, Prod.exists, Prod.mk.injEq, ih]
      constructor
      · rintro ⟨r, patch, hr, _, _, ⟨q, ps₁, ps₂, h₁, h₂, rfl⟩, rfl, rfl⟩
        exact ⟨q, patch :: ps₁, ps₂, ⟨r, patch, hr, q, ps₁, h₁, rfl, rfl⟩, h₂, rfl⟩
      · rintro ⟨q, _, ps₂, ⟨r, patch, hr, _, ps₁, h₁, rfl, rfl⟩, h₂, rfl⟩
        exact ⟨r, patch, hr, p', ps₁ ++ ps₂, ⟨_, ps₁, ps₂, h₁, h₂, rfl⟩, rfl, rfl⟩

theorem BlockProjector.length_applyAll {p p' : BlockProjector} {events : List EventEnvelope}
    {patches : List BlockPatch} (h : p.applyAll D events = .ok (p', patches)) : patches.length = events.length := by
  induction events generalizing p patches with
  | nil =>
      obtain ⟨-, rfl⟩ := Prod.mk.inj (Except.ok.inj h)
      rfl
  | cons event events ih =>
      simp only [applyAll, bind_eq_ok, pure_eq_ok, Prod.exists, Prod.mk.injEq] at h
      obtain ⟨q, patch, -, _, ps, hps, rfl, rfl⟩ := h
      simp [ih hps]

/-- The patches of a run, applied in order, take the snapshot at its start to the snapshot at its end. -/
theorem applyPatches_snapshot {p p' : BlockProjector} {events : List EventEnvelope} {patches : List BlockPatch}
    (h : p.applyAll D events = .ok (p', patches)) : applyPatches D (p.snapshot D) patches = .ok (p'.snapshot D) := by
  induction events generalizing p patches with
  | nil =>
      obtain ⟨rfl, rfl⟩ := Prod.mk.inj (Except.ok.inj h)
      rfl
  | cons event events ih =>
      simp only [BlockProjector.applyAll, bind_eq_ok, pure_eq_ok, Prod.exists, Prod.mk.injEq] at h
      obtain ⟨q, patch, hq, _, ps, hps, rfl, rfl⟩ := h
      rw [applyPatches, List.foldlM_cons, applyPatch_snapshot hq]
      exact ih hps

theorem BlockProjector.applyAll_taskId {p p' : BlockProjector} {events : List EventEnvelope}
    {patches : List BlockPatch} (h : p.applyAll D events = .ok (p', patches)) : p'.taskId = p.taskId := by
  induction events generalizing p patches with
  | nil => exact (Prod.mk.inj (Except.ok.inj h)).1 ▸ rfl
  | cons event events ih =>
      simp only [applyAll, bind_eq_ok, pure_eq_ok, Prod.exists, Prod.mk.injEq] at h
      obtain ⟨q, patch, hq, _, ps, hps, rfl, rfl⟩ := h
      exact (ih hps).trans (apply_taskId hq)

/-- Where the patches of a run are split, its events split. -/
theorem BlockProjector.applyAll_split {p p' : BlockProjector} {events : List EventEnvelope}
    {patches₁ patches₂ : List BlockPatch} (h : p.applyAll D events = .ok (p', patches₁ ++ patches₂)) :
    ∃ q events₁ events₂, p.applyAll D events₁ = .ok (q, patches₁) ∧ q.applyAll D events₂ = .ok (p', patches₂) := by
  induction patches₁ generalizing p events with
  | nil => exact ⟨p, [], events, rfl, h⟩
  | cons patch patches₁ ih =>
      cases events with
      | nil => exact nomatch h
      | cons event events =>
          simp only [applyAll, bind_eq_ok, pure_eq_ok, Prod.exists, Prod.mk.injEq, List.cons_append,
            List.cons.injEq] at h
          obtain ⟨r, _, hr, _, ps, hps, rfl, rfl, rfl⟩ := h
          obtain ⟨q, events₁, events₂, h₁, h₂⟩ := ih hps
          exact ⟨q, event :: events₁, events₂, by simp [applyAll, hr, h₁, bind, Except.bind, pure, Except.pure], h₂⟩

/-- The patches of a run are based each on the revision its predecessor leads to. -/
theorem BlockProjector.applyAll_chain {p p' : BlockProjector} {events : List EventEnvelope}
    {patches : List BlockPatch} (h : p.applyAll D events = .ok (p', patches)) :
    patches.IsChain fun patch next => next.baseRevision = patch.targetRevision := by
  induction events generalizing p patches with
  | nil =>
      obtain ⟨-, rfl⟩ := Prod.mk.inj (Except.ok.inj h)
      exact .nil
  | cons event events ih =>
      simp only [applyAll, bind_eq_ok, pure_eq_ok, Prod.exists, Prod.mk.injEq] at h
      obtain ⟨q, patch, hq, _, ps, hps, rfl, rfl⟩ := h
      have htarget : patch.targetRevision = q.revision := by
        obtain ⟨-, -, r, _, -, rfl, rfl⟩ := apply_eq_ok.mp hq
        rfl
      cases events with
      | nil =>
          obtain ⟨-, rfl⟩ := Prod.mk.inj (Except.ok.inj hps)
          exact .singleton _
      | cons event' events =>
          have hchain := ih hps
          simp only [applyAll, bind_eq_ok, pure_eq_ok, Prod.exists, Prod.mk.injEq] at hps
          obtain ⟨q', patch', hq', _, ps', -, -, rfl⟩ := hps
          refine .cons_cons ?_ hchain
          obtain ⟨-, -, _, _, -, -, rfl⟩ := apply_eq_ok.mp hq'
          exact htarget.symm

theorem BlockProjector.foldlM_of_applyAll {p p' : BlockProjector} {events : List EventEnvelope}
    {patches : List BlockPatch} (h : p.applyAll D events = .ok (p', patches)) :
    events.foldlM (fun q event => if event.taskId = p.taskId then do
      let (q, _) ← q.apply D event
      return q
    else return q) p = .ok p' := by
  obtain ⟨taskId, htask⟩ : ∃ taskId, taskId = p.taskId := ⟨_, rfl⟩
  rw [← htask]
  induction events generalizing p patches with
  | nil =>
      obtain ⟨rfl, rfl⟩ := Prod.mk.inj (Except.ok.inj h)
      rfl
  | cons event events ih =>
      simp only [applyAll, bind_eq_ok, pure_eq_ok, Prod.exists, Prod.mk.injEq] at h
      obtain ⟨q, patch, hq, _, ps, hps, rfl, rfl⟩ := h
      obtain ⟨hevent, -, r, _, hr, rfl, -⟩ := apply_eq_ok.mp hq
      have hstep := ih hps (htask.trans (change_taskId (applyPayload_change hr)).symm)
      rw [List.foldlM_cons, if_pos (hevent.trans htask.symm), hq]
      exact hstep

/-- **Snapshot plus patches is the full replay.** For every run of accepted events and every split point, the
patches after the split are accepted in order on the snapshot at the split and give the snapshot at the end,
which is the snapshot of the replay. -/
theorem snapshot_plus_patches_matches_full_replay (D : Digests) (taskId : TaskId) (events : List EventEnvelope)
    (p : BlockProjector) (patches : List BlockPatch)
    (haccepted : (BlockProjector.new taskId).applyAll D events = .ok (p, patches)) (k : Nat) :
    (∃ q, (BlockProjector.new taskId).applyAll D (events.take k) = .ok (q, patches.take k) ∧
      applyPatches D (q.snapshot D) (patches.drop k) = .ok (p.snapshot D)) ∧
    ∃ r, BlockProjector.replay D taskId events = .ok r ∧ r.snapshot D = p.snapshot D := by
  refine ⟨?_, p, BlockProjector.foldlM_of_applyAll haccepted, rfl⟩
  have hsplit := haccepted
  rw [← List.take_append_drop k events, BlockProjector.applyAll_append] at hsplit
  obtain ⟨q, ps₁, ps₂, h₁, h₂, rfl⟩ := hsplit
  have hlen : ps₁.length = min k events.length := by
    rw [BlockProjector.length_applyAll h₁, List.length_take]
  have hlen₂ : ps₂.length = events.length - k := by
    rw [BlockProjector.length_applyAll h₂, List.length_drop]
  have htake : (ps₁ ++ ps₂).take k = ps₁ := by
    rcases Nat.le_total k events.length with hk | hk
    · rw [List.take_append_of_le_length (by omega), List.take_of_length_le (by omega)]
    · have : ps₂ = [] := List.length_eq_zero_iff.mp (by omega)
      rw [this, List.append_nil, List.take_of_length_le (by omega)]
  have hdrop : (ps₁ ++ ps₂).drop k = ps₂ := by
    rcases Nat.le_total k events.length with hk | hk
    · have : k = ps₁.length := by omega
      rw [this, List.drop_left]
    · have : ps₂ = [] := List.length_eq_zero_iff.mp (by omega)
      rw [this, List.append_nil, List.drop_of_length_le (by omega)]
  rw [htake, hdrop]
  exact ⟨q, h₁, applyPatches_snapshot h₂⟩

/-! ## A concrete run -/

/-- A task with a message that arrives in two parts, split after the first event. -/
theorem snapshot_plus_patches_two_part_message :
    ∃ (p : BlockProjector) (patches : List BlockPatch), (∃ q, (BlockProjector.new sampleTask).applyAll sampleDigests
        [sampleEvent 1 none (.taskCreated "build terminal")] = .ok (q, patches.take 1) ∧
      applyPatches sampleDigests (q.snapshot sampleDigests) (patches.drop 1) = .ok (p.snapshot sampleDigests)) ∧
    ∃ r, BlockProjector.replay sampleDigests sampleTask
        [sampleEvent 1 none (.taskCreated "build terminal"),
          sampleEvent 2 none (.messageAppended ⟨7⟩ .agent (some "agent-1") "hello "),
          sampleEvent 3 none (.messageAppended ⟨7⟩ .agent (some "agent-1") "world")] = .ok r ∧
      r.snapshot sampleDigests = p.snapshot sampleDigests :=
  ⟨_, _, snapshot_plus_patches_matches_full_replay sampleDigests sampleTask
    [sampleEvent 1 none (.taskCreated "build terminal"),
      sampleEvent 2 none (.messageAppended ⟨7⟩ .agent (some "agent-1") "hello "),
      sampleEvent 3 none (.messageAppended ⟨7⟩ .agent (some "agent-1") "world")] _ _ rfl 1⟩

end HyperTerm.Core
