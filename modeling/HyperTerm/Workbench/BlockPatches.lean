import HyperTerm.Workbench.BlockStore
import HyperTerm.Workbench.Locales

/-!
# The renderer and the authority apply patches alike

The renderer's map, read through the heap, is the authority's list of blocks after every operation (`Mirrors`), and
what was in the heap before is never changed. What is left are the two ends: the renderer refuses every schema but its
own, and sorts blocks of one order key in the order of the host's locale (`appliesAlike_iff`).
-/

namespace HyperTerm.Workbench
open HyperTerm.Protocol HyperTerm.Lib HyperTerm.Core

/-! ## What the objects stand for -/

/-- The block and its payload are objects of the heap. -/
def Heap.Holds (heap : Heap) (r : Ref) : Prop := r < heap.next ∧ (heap.blocks r).payload < heap.next

structure Represents (heap : Heap) (js : JsDocument) (document : BlockDocument) : Prop where
  schemaVersion : js.schemaVersion = document.schemaVersion
  taskId : js.taskId = document.taskId
  revision : js.revision = document.revision
  holds : ∀ r ∈ js.blocks, heap.Holds r
  blocks : js.blocks.map heap.read = document.blocks

inductive RepresentsOperation (heap : Heap) : JsOperation → BlockOperation → Prop
  | upsert (r : Ref) (h : heap.Holds r) : RepresentsOperation heap (.upsert r) (.upsert (heap.read r))
  | appendContent (blockId : BlockId) (expectedPreviousRevision blockRevision : Nat) (text : String) :
      RepresentsOperation heap (.appendContent blockId expectedPreviousRevision blockRevision text)
        (.appendContent blockId expectedPreviousRevision blockRevision text)
  | remove (blockId : BlockId) : RepresentsOperation heap (.remove blockId) (.remove blockId)

structure RepresentsPatch (heap : Heap) (js : JsPatch) (patch : BlockPatch) : Prop where
  baseRevision : js.baseRevision = patch.baseRevision
  targetRevision : js.targetRevision = patch.targetRevision
  operations : List.Forall₂ (RepresentsOperation heap) js.operations patch.operations

/-- The renderer throws when the authority fails, gives the same document otherwise, and leaves the objects that it was
given as they were. -/
structure AppliesAlike (D : Digests) (localeCompare : String → String → Int) (heap : Heap) (js : JsDocument)
    (jsPatch : JsPatch) (document : BlockDocument) (patch : BlockPatch) : Prop where
  throws : (applyBlockPatch localeCompare heap js jsPatch).2.isOk = (applyPatch D document patch).isOk
  alike : ∀ js' document', (applyBlockPatch localeCompare heap js jsPatch).2 = .ok js' →
    applyPatch D document patch = .ok document' →
    js'.schemaVersion = document'.schemaVersion ∧ js'.taskId = document'.taskId ∧ js'.revision = document'.revision ∧
      js'.blocks.map (applyBlockPatch localeCompare heap js jsPatch).1.read = document'.blocks
  unchanged : ∀ r < heap.next, (applyBlockPatch localeCompare heap js jsPatch).1.blocks r = heap.blocks r ∧
    (applyBlockPatch localeCompare heap js jsPatch).1.payloads r = heap.payloads r

/-- The patch applies to the document, and leaves these blocks, not yet sorted. -/
def Leaves (document : BlockDocument) (patch : BlockPatch) (blocks : List BlockEnvelope) : Prop :=
  document.revision = patch.baseRevision ∧
    patch.operations.foldlM (applyOperation patch.targetRevision) document.blocks = .ok blocks

/-- The locale has blocks of one order key in the order of the bytes of their identifiers. -/
def OrderedAlike (collation : Collation) (blocks : List BlockEnvelope) : Prop :=
  ∀ a ∈ blocks, ∀ b ∈ blocks, a.orderKey = b.orderKey → a.blockId.uuid.toNat < b.blockId.uuid.toNat →
    collation.compare a.blockId.uuid.text b.blockId.uuid.text ≤ 0

/-! ## The heap -/

/-- Objects below `bound` are as they were. -/
structure Extends (bound : Ref) (heap heap' : Heap) : Prop where
  blocks : ∀ r < bound, heap'.blocks r = heap.blocks r
  payloads : ∀ r < bound, heap'.payloads r = heap.payloads r
  next : heap.next ≤ heap'.next

variable {bound : Ref} {heap heap' : Heap} {r : Ref}

theorem Extends.refl (bound : Ref) (heap : Heap) : Extends bound heap heap := ⟨fun _ _ => rfl, fun _ _ => rfl, le_rfl⟩

theorem Extends.trans {heap'' : Heap} (h : Extends bound heap heap') (h' : Extends bound heap' heap'') :
    Extends bound heap heap'' :=
  ⟨fun r hr => (h'.blocks r hr).trans (h.blocks r hr), fun r hr => (h'.payloads r hr).trans (h.payloads r hr),
    h.next.trans h'.next⟩

theorem read_congr (hblock : heap'.blocks r = heap.blocks r)
    (hpayload : heap'.payloads (heap.blocks r).payload = heap.payloads (heap.blocks r).payload) :
    heap'.read r = heap.read r := by
  simp only [Heap.read, hblock, hpayload]

theorem Extends.read (h : Extends bound heap heap') (hr : r < bound) (hpayload : (heap.blocks r).payload < bound) :
    heap'.read r = heap.read r :=
  read_congr (h.blocks r hr) (h.payloads _ hpayload)

theorem structuredClone_extends (hbound : bound ≤ heap.next) (r : Ref) :
    Extends bound heap (heap.structuredClone r).1 :=
  ⟨fun _ hr => Function.update_of_ne (hr.trans_le hbound).ne _ _,
    fun _ hr => Function.update_of_ne (hr.trans_le hbound).ne _ _, Nat.le_succ _⟩

/-- A clone has the value of the original. -/
theorem read_structuredClone (heap : Heap) (r : Ref) :
    (heap.structuredClone r).1.read heap.next = heap.read r := by
  simp only [Heap.read, Heap.structuredClone, Heap.setBlock, Heap.setPayload, Function.update_self]

theorem payload_structuredClone (heap : Heap) (r : Ref) :
    ((heap.structuredClone r).1.blocks heap.next).payload = heap.next := by
  simp only [Heap.structuredClone, Heap.setBlock, Heap.setPayload, Function.update_self]

/-! ## The map of the renderer is the list of the authority -/

/-- The entries of the map are clones, each with a payload of its own, and are the blocks of the list in their order. -/
structure Mirrors (bound : Ref) (heap : Heap) (m : JsMap) (blocks : List BlockEnvelope) : Prop where
  read : m.map (fun e => heap.read e.2) = blocks
  key : ∀ e ∈ m, (heap.blocks e.2).blockId = e.1
  own : ∀ e ∈ m, bound ≤ e.2 ∧ e.2 < heap.next ∧ (heap.blocks e.2).payload = e.2
  keys : (m.map Prod.fst).Nodup
  refs : (m.map Prod.snd).Nodup

variable {m : JsMap} {blocks : List BlockEnvelope}

namespace Mirrors

theorem ids (h : Mirrors bound heap m blocks) : blocks.map BlockEnvelope.blockId = m.map Prod.fst := by
  rw [← h.read, List.map_map]
  exact List.map_congr_left h.key

theorem nodup (h : Mirrors bound heap m blocks) : (blocks.map BlockEnvelope.blockId).Nodup := by
  rw [h.ids]
  exact h.keys

/-- Looking up an identifier gives the same block. -/
theorem find? (h : Mirrors bound heap m blocks) (blockId : BlockId) :
    BlockDocument.find? blocks blockId = (m.get blockId).map heap.read := by
  unfold BlockDocument.find? JsMap.get findKey
  rw [← h.read, List.find?_map, Option.map_map]
  have hkeys : ∀ e ∈ m, ((fun block : BlockEnvelope => decide (block.blockId = blockId)) ∘
      fun e : BlockId × Ref => heap.read e.2) e = decide (e.1 = blockId) := by
    intro e he
    show decide ((heap.blocks e.2).blockId = blockId) = _
    rw [h.key e he]
  rw [find?_congr hkeys]
  rfl

theorem mem_of_get (h : Mirrors bound heap m blocks) {blockId : BlockId} (hget : m.get blockId = some r) :
    (blockId, r) ∈ m := by
  obtain ⟨e, hfind, rfl⟩ := Option.map_eq_some_iff.mp hget
  obtain ⟨hmem, rfl⟩ := (findKey_eq_some h.keys).mp hfind
  exact hmem

/-- Objects that are no clones of the map, and below which all of them are, do not matter. -/
theorem congr (h : Mirrors bound heap m blocks) (hblocks : ∀ e ∈ m, heap'.blocks e.2 = heap.blocks e.2)
    (hpayloads : ∀ e ∈ m, heap'.payloads e.2 = heap.payloads e.2) (hnext : heap.next ≤ heap'.next) :
    Mirrors bound heap' m blocks := by
  refine ⟨?_, fun e he => ?_, fun e he => ?_, h.keys, h.refs⟩
  · rw [← h.read]
    refine List.map_congr_left fun e he => read_congr (hblocks e he) ?_
    rw [(h.own e he).2.2]
    exact hpayloads e he
  · rw [hblocks e he]
    exact h.key e he
  · rw [hblocks e he]
    obtain ⟨hbound, hlt, hown⟩ := h.own e he
    exact ⟨hbound, hlt.trans_le hnext, hown⟩

end Mirrors

variable {blockId : BlockId}

theorem get_eq_none (h : m.get blockId = none) : ∀ e ∈ m, e.1 ≠ blockId :=
  find?_key_eq_none.mp (Option.map_eq_none_iff.mp h)

namespace Mirrors

/-- A clone is set under its identifier: in place of the block that was there, or at the end. -/
theorem set (h : Mirrors bound heap m blocks) (hbound : bound ≤ heap.next) (r : Ref) :
    Mirrors bound (heap.structuredClone r).1 (m.set (heap.blocks r).blockId heap.next)
      (if (BlockDocument.find? blocks (heap.read r).blockId).isSome then
        updateFirst (fun b => b.blockId = (heap.read r).blockId) (fun _ => heap.read r) blocks
      else blocks ++ [heap.read r]) := by
  have hold : Mirrors bound (heap.structuredClone r).1 m blocks := by
    refine h.congr (fun e he => Function.update_of_ne ?_ _ _) (fun e he => Function.update_of_ne ?_ _ _)
      (Nat.le_succ _)
    · exact (h.own e he).2.1.ne
    · exact (h.own e he).2.1.ne
  have hown : bound ≤ heap.next ∧ heap.next < (heap.structuredClone r).1.next ∧
      ((heap.structuredClone r).1.blocks heap.next).payload = heap.next :=
    ⟨hbound, Nat.lt_succ_self _, payload_structuredClone heap r⟩
  have hkey : ((heap.structuredClone r).1.blocks heap.next).blockId = (heap.blocks r).blockId :=
    congrArg BlockEnvelope.blockId (read_structuredClone heap r)
  have hfresh : heap.next ∉ m.map Prod.snd := by
    intro hmem
    obtain ⟨e, he, heq⟩ := List.mem_map.mp hmem
    exact absurd heq (h.own e he).2.1.ne
  show Mirrors _ _ _ (if (BlockDocument.find? blocks (heap.blocks r).blockId).isSome then _ else _)
  rw [h.find?, Option.isSome_map]
  unfold JsMap.set
  split_ifs with hget
  · rw [updateFirst_eq_map h.keys, updateFirst_eq_map h.nodup, ← hold.read]
    have hmem : ∀ e ∈ m.map fun e => if e.1 = (heap.blocks r).blockId then ((heap.blocks r).blockId, heap.next) else e,
        e = ((heap.blocks r).blockId, heap.next) ∨ e ∈ m := by
      intro e he
      obtain ⟨e', he', rfl⟩ := List.mem_map.mp he
      split_ifs
      · exact Or.inl rfl
      · exact Or.inr he'
    refine ⟨?_, fun e he => ?_, fun e he => ?_, ?_, ?_⟩
    · rw [List.map_map, List.map_map]
      refine List.map_congr_left fun e he => ?_
      have hid : ((heap.structuredClone r).1.read e.2).blockId = e.1 := hold.key e he
      simp only [Function.comp_apply, hid]
      show (heap.structuredClone r).1.read (if e.1 = (heap.read r).blockId then _ else e).2 = _
      split_ifs
      · exact read_structuredClone heap r
      · rfl
    · rcases hmem e he with rfl | he
      · exact hkey
      · exact hold.key e he
    · rcases hmem e he with rfl | he
      · exact hown
      · exact hold.own e he
    · rw [List.map_map]
      have hfst : m.map (Prod.fst ∘ fun e : BlockId × Ref =>
          if e.1 = (heap.blocks r).blockId then ((heap.blocks r).blockId, heap.next) else e) = m.map Prod.fst := by
        refine List.map_congr_left fun e _ => ?_
        simp only [Function.comp_apply]
        split_ifs with he
        · exact he.symm
        · rfl
      rw [hfst]
      exact h.keys
    · rw [List.map_map]
      refine List.Nodup.map_on (fun e he e' he' heq => ?_) h.keys.of_map
      simp only [Function.comp_apply] at heq
      split_ifs at heq with hid hid' hid'
      · exact List.inj_on_of_nodup_map h.keys he he' (hid.trans hid'.symm)
      · exact absurd (List.mem_map.mpr ⟨e', he', heq.symm⟩) hfresh
      · exact absurd (List.mem_map.mpr ⟨e, he, heq⟩) hfresh
      · exact List.inj_on_of_nodup_map h.refs he he' heq
  · have hnone := get_eq_none (Option.not_isSome_iff_eq_none.mp hget)
    refine ⟨?_, fun e he => ?_, fun e he => ?_, ?_, ?_⟩
    · rw [List.map_append, hold.read, List.map_singleton, read_structuredClone]
    · rcases List.mem_append.mp he with he | he
      · exact hold.key e he
      · obtain rfl := List.mem_singleton.mp he
        exact hkey
    · rcases List.mem_append.mp he with he | he
      · exact hold.own e he
      · obtain rfl := List.mem_singleton.mp he
        exact hown
    · rw [List.map_append, List.map_singleton]
      refine h.keys.append (List.nodup_singleton _) (List.disjoint_singleton.mpr fun hmem => ?_)
      obtain ⟨e, he, heq⟩ := List.mem_map.mp hmem
      exact hnone e he heq
    · rw [List.map_append, List.map_singleton]
      exact h.refs.append (List.nodup_singleton _) (List.disjoint_singleton.mpr hfresh)

/-- A message is extended in place. -/
theorem append (h : Mirrors bound heap m blocks) (hget : m.get blockId = some r) (payload : BlockPayload)
    (blockRevision documentRevision : Nat) :
    Mirrors bound ((heap.setPayload (heap.blocks r).payload payload).setBlock r
        { heap.blocks r with blockRevision, documentRevision }) m
      (updateFirst (fun b => b.blockId = blockId)
        (fun _ => { heap.read r with payload, blockRevision, documentRevision }) blocks) := by
  have hr := h.mem_of_get hget
  have hown := (h.own _ hr).2.2
  have hself : ((heap.setPayload (heap.blocks r).payload payload).setBlock r
      { heap.blocks r with blockRevision, documentRevision }).read r =
      { heap.read r with payload, blockRevision, documentRevision } := by
    simp only [Heap.read, Heap.setBlock, Heap.setPayload, Function.update_self]
  have hother : ∀ e ∈ m, e.2 ≠ r → ((heap.setPayload (heap.blocks r).payload payload).setBlock r
      { heap.blocks r with blockRevision, documentRevision }).read e.2 = heap.read e.2 := by
    intro e he hne
    refine read_congr (Function.update_of_ne hne _ _) (Function.update_of_ne ?_ _ _)
    rw [hown, (h.own e he).2.2]
    exact hne
  have hsame : ∀ e ∈ m, e.1 = blockId ↔ e.2 = r := fun e he =>
    ⟨fun hid => congrArg Prod.snd (List.inj_on_of_nodup_map h.keys he hr hid),
      fun href => congrArg Prod.fst (List.inj_on_of_nodup_map h.refs he hr href)⟩
  refine ⟨?_, fun e he => ?_, fun e he => ?_, h.keys, h.refs⟩
  · rw [updateFirst_eq_map h.nodup, ← h.read, List.map_map]
    refine List.map_congr_left fun e he => ?_
    have hid : (heap.read e.2).blockId = e.1 := h.key e he
    simp only [Function.comp_apply, hid, hsame e he]
    split_ifs with href
    · rw [href, hself]
    · exact hother e he href
  · by_cases href : e.2 = r
    · rw [href]
      exact (congrArg BlockEnvelope.blockId hself).trans (href ▸ h.key e he)
    · exact (congrArg BlockEnvelope.blockId (hother e he href)).trans (h.key e he)
  · obtain ⟨hbound, hlt, hpayload⟩ := h.own e he
    refine ⟨hbound, hlt, ?_⟩
    by_cases href : e.2 = r
    · rw [href]
      show (Function.update heap.blocks r _ r).payload = r
      rw [Function.update_self]
      exact hown
    · show (Function.update heap.blocks r _ e.2).payload = e.2
      rw [Function.update_of_ne href]
      exact hpayload

theorem delete (h : Mirrors bound heap m blocks) (blockId : BlockId) :
    Mirrors bound heap (m.delete blockId) (blocks.filter fun b => b.blockId ≠ blockId) := by
  refine ⟨?_, fun e he => h.key e (List.mem_of_mem_filter he), fun e he => h.own e (List.mem_of_mem_filter he),
    h.keys.sublist (List.filter_sublist.map _), h.refs.sublist (List.filter_sublist.map _)⟩
  rw [← h.read, List.filter_map]
  refine congrArg (List.map _) (List.filter_congr fun e he => ?_)
  show _ = decide ((heap.blocks e.2).blockId ≠ blockId)
  rw [h.key e he]

end Mirrors

/-! ## Every operation -/

/-- Both fail, or both have the same blocks. -/
inductive Agree (bound : Ref) (heap : Heap) :
    Thrown JsMap → Except ProjectorError (List BlockEnvelope) → Prop
  | ok {heap' : Heap} {m : JsMap} {blocks : List BlockEnvelope} (hext : Extends bound heap heap')
      (h : Mirrors bound heap' m blocks) : Agree bound heap (heap', .ok m) (.ok blocks)
  | error {heap' : Heap} (hext : Extends bound heap heap') (e : String) (e' : ProjectorError) :
      Agree bound heap (heap', .error e) (.error e')

variable {heap₀ : Heap} {op : JsOperation} {op' : BlockOperation}

theorem upsert_agree (h : Mirrors bound heap m blocks) (hbound : bound ≤ heap.next) (targetRevision : Nat) (r : Ref) :
    Agree bound heap (applyJsOperation targetRevision heap m (.upsert r))
      (applyOperation targetRevision blocks (.upsert (heap.read r))) := by
  have hset := h.set hbound r
  rw [h.find?] at hset
  unfold applyJsOperation applyOperation
  dsimp only
  rw [h.find?]
  have hext := structuredClone_extends hbound r
  cases hget : m.get (heap.blocks r).blockId with
  | none =>
      have hget' : m.get (heap.read r).blockId = none := hget
      rw [hget'] at hset ⊢
      exact Agree.ok hext hset
  | some existing =>
      have hget' : m.get (heap.read r).blockId = some existing := hget
      rw [hget'] at hset ⊢
      by_cases hkind : (heap.blocks existing).kind = (heap.blocks r).kind
      · rw [if_neg (by simp [hkind])]
        show Agree _ _ _ (if (heap.blocks existing).kind ≠ (heap.blocks r).kind then _ else _)
        rw [if_neg (not_not.mpr hkind)]
        exact Agree.ok hext hset
      · rw [if_pos (by simp [hkind])]
        show Agree _ _ _ (if (heap.blocks existing).kind ≠ (heap.blocks r).kind then _ else _)
        rw [if_pos hkind]
        exact Agree.error (Extends.refl _ _) _ _

theorem append_extends (h : Mirrors bound heap m blocks) (hget : m.get blockId = some r) (payload : BlockPayload)
    (block : JsBlock) :
    Extends bound heap ((heap.setPayload (heap.blocks r).payload payload).setBlock r block) := by
  obtain ⟨hr, -, hown⟩ := h.own _ (h.mem_of_get hget)
  refine ⟨fun r' hr' => Function.update_of_ne (hr'.trans_le hr).ne _ _,
    fun r' hr' => Function.update_of_ne ?_ _ _, le_rfl⟩
  rw [hown]
  exact (hr'.trans_le hr).ne

theorem append_agree (h : Mirrors bound heap m blocks) (targetRevision : Nat) (blockId : BlockId)
    (expectedPreviousRevision blockRevision : Nat) (text : String) :
    Agree bound heap
      (applyJsOperation targetRevision heap m (.appendContent blockId expectedPreviousRevision blockRevision text))
      (applyOperation targetRevision blocks
        (.appendContent blockId expectedPreviousRevision blockRevision text)) := by
  unfold applyJsOperation applyOperation
  dsimp only
  rw [h.find?]
  cases hget : m.get blockId with
  | none => exact Agree.error (Extends.refl _ _) _ _
  | some r =>
      show Agree _ _ _ (if (heap.blocks r).blockRevision ≠ expectedPreviousRevision then _ else _)
      dsimp only
      split_ifs with hrevision
      · exact Agree.error (Extends.refl _ _) _ _
      · have hpayload : (heap.read r).payload = heap.payloads (heap.blocks r).payload := rfl
        rw [hpayload]
        cases heap.payloads (heap.blocks r).payload with
        | message role existing externalMessageId =>
            exact Agree.ok (append_extends h hget _ _) (h.append hget _ _ _)
        | _ => exact Agree.error (Extends.refl _ _) _ _

/-- **One operation.** It fails on both sides, or keeps the map the list. -/
theorem applyJsOperation_agree (h : Mirrors heap₀.next heap m blocks) (hext : Extends heap₀.next heap₀ heap)
    (hop : RepresentsOperation heap₀ op op') (targetRevision : Nat) :
    Agree heap₀.next heap (applyJsOperation targetRevision heap m op) (applyOperation targetRevision blocks op') := by
  cases hop with
  | upsert r hr =>
      rw [← hext.read hr.1 hr.2]
      exact upsert_agree h hext.next targetRevision r
  | appendContent blockId expectedPreviousRevision blockRevision text =>
      exact append_agree h targetRevision blockId expectedPreviousRevision blockRevision text
  | remove blockId => exact Agree.ok (Extends.refl _ _) (h.delete blockId)

theorem Agree.extend {heap₁ : Heap} {result : Thrown JsMap} {result' : Except ProjectorError (List BlockEnvelope)}
    (hext : Extends bound heap₁ heap) (h : Agree bound heap result result') : Agree bound heap₁ result result' := by
  cases h with
  | ok hext' h => exact Agree.ok (hext.trans hext') h
  | error hext' e e' => exact Agree.error (hext.trans hext') e e'

/-- **A whole patch.** -/
theorem applyJsOperations_agree {ops : List JsOperation} {ops' : List BlockOperation}
    (hops : List.Forall₂ (RepresentsOperation heap₀) ops ops') (targetRevision : Nat)
    (h : Mirrors heap₀.next heap m blocks) (hext : Extends heap₀.next heap₀ heap) :
    Agree heap₀.next heap (applyJsOperations targetRevision heap m ops)
      (ops'.foldlM (applyOperation targetRevision) blocks) := by
  induction hops generalizing heap m blocks with
  | nil => exact Agree.ok (Extends.refl _ _) h
  | cons hop hops ih =>
      rw [applyJsOperations, List.foldlM_cons]
      have hstep := applyJsOperation_agree h hext hop targetRevision
      generalize applyJsOperation targetRevision heap m _ = result at hstep ⊢
      generalize applyOperation targetRevision blocks _ = result' at hstep ⊢
      cases hstep with
      | error hext' e e' => exact Agree.error hext' e e'
      | ok hext' h' => exact (ih h' (hext.trans hext')).extend hext'

/-! ## The blocks of the document -/

theorem Mirrors.nil (bound : Ref) (heap : Heap) : Mirrors bound heap [] [] :=
  ⟨rfl, fun _ he => absurd he List.not_mem_nil, fun _ he => absurd he List.not_mem_nil, List.nodup_nil, List.nodup_nil⟩

/-- Blocks of distinct identifiers are cloned one after the other. -/
theorem cloneBlocks_mirrors {refs : List Ref} (hrefs : ∀ r ∈ refs, heap₀.Holds r)
    (h : Mirrors heap₀.next heap m blocks) (hext : Extends heap₀.next heap₀ heap)
    (hids : ((blocks ++ refs.map heap₀.read).map BlockEnvelope.blockId).Nodup) :
    Extends heap₀.next heap (cloneBlocks heap m refs).1 ∧
      Mirrors heap₀.next (cloneBlocks heap m refs).1 (cloneBlocks heap m refs).2
        (blocks ++ refs.map heap₀.read) := by
  induction refs generalizing heap m blocks with
  | nil => exact ⟨Extends.refl _ _, (List.append_nil blocks).symm ▸ h⟩
  | cons r refs ih =>
      have hr := hrefs r List.mem_cons_self
      have hread := hext.read hr.1 hr.2
      have hclone := structuredClone_extends hext.next r
      have hset := h.set hext.next r
      have hnone : BlockDocument.find? blocks (heap.read r).blockId = none := by
        refine find?_key_eq_none.mpr fun b hb heq => ?_
        rw [List.map_append] at hids
        refine List.disjoint_of_nodup_append hids (List.mem_map.mpr ⟨b, hb, rfl⟩) (List.mem_map.mpr ⟨heap₀.read r, ?_, ?_⟩)
        · exact List.mem_cons_self
        · rw [heq, hread]
      rw [hnone, hread] at hset
      have hlist : blocks ++ (r :: refs).map heap₀.read = (blocks ++ [heap₀.read r]) ++ refs.map heap₀.read := by
        rw [List.map_cons, List.append_assoc, List.singleton_append]
      rw [hlist] at hids ⊢
      obtain ⟨hext', hmirrors⟩ := ih (fun r' hr' => hrefs r' (List.mem_cons_of_mem r hr')) hset
        (hext.trans hclone) hids
      exact ⟨hclone.trans hext', hmirrors⟩

/-! ## The two orders -/

section Order

variable (collation : Collation) {a b c : BlockEnvelope}

/-- The order of the renderer. -/
def NotAfter (a b : BlockEnvelope) : Prop := compareBlocks collation.compare a b ≤ 0

instance : DecidableRel (NotAfter collation) := fun _ _ => inferInstanceAs (Decidable (_ ≤ _))

variable {collation}

theorem notAfter_iff :
    NotAfter collation a b ↔ a.orderKey < b.orderKey ∨
      a.orderKey = b.orderKey ∧ collation.compare a.blockId.uuid.text b.blockId.uuid.text ≤ 0 := by
  unfold NotAfter compareBlocks
  split_ifs with h
  · omega
  · have heq : a.orderKey = b.orderKey := by omega
    rw [heq]
    simp

theorem notAfter_total (a b : BlockEnvelope) : NotAfter collation a b ∨ NotAfter collation b a := by
  rw [notAfter_iff, notAfter_iff]
  have hsymm := collation.antisymm a.blockId.uuid.text b.blockId.uuid.text
  omega

theorem NotAfter.trans (h : NotAfter collation a b) (h' : NotAfter collation b c) : NotAfter collation a c := by
  rw [notAfter_iff] at h h' ⊢
  have htrans := collation.trans a.blockId.uuid.text b.blockId.uuid.text c.blockId.uuid.text
  omega

theorem NotAfter.blockId_eq (h : NotAfter collation a b) (h' : NotAfter collation b a) : a.blockId = b.blockId := by
  rw [notAfter_iff] at h h'
  have hsymm := collation.antisymm a.blockId.uuid.text b.blockId.uuid.text
  have hzero : collation.compare a.blockId.uuid.text b.blockId.uuid.text = 0 := by omega
  have huuid := collation.distinct _ _ hzero
  cases ha : a.blockId
  cases hb : b.blockId
  rw [ha, hb] at huuid
  exact congrArg BlockId.mk huuid

theorem sortKey_le : sortKey a ≤ sortKey b ↔
    a.orderKey < b.orderKey ∨ a.orderKey = b.orderKey ∧ a.blockId.uuid.toNat ≤ b.blockId.uuid.toNat :=
  Prod.Lex.toLex_le_toLex

theorem notAfter_pairwise (l : List BlockEnvelope) : (l.insertionSort (NotAfter collation)).Pairwise (NotAfter collation) :=
  haveI : Std.Total (NotAfter collation) := ⟨notAfter_total⟩
  haveI : IsTrans BlockEnvelope (NotAfter collation) := ⟨fun _ _ _ => NotAfter.trans⟩
  List.pairwise_insertionSort _ l

/-- **The two sorts.** They give the same list if the locale has no two of its blocks the other way. -/
theorem insertionSort_eq_sortByKey_iff {l : List BlockEnvelope} (hl : (l.map BlockEnvelope.blockId).Nodup) :
    l.insertionSort (NotAfter collation) = sortByKey sortKey l ↔ OrderedAlike collation l := by
  constructor
  · intro heq a ha b hb horder hlt
    have hboth : (sortByKey sortKey l).Pairwise fun a b => NotAfter collation a b ∧ sortKey a ≤ sortKey b :=
      (heq ▸ notAfter_pairwise l).and (sortByKey_pairwise sortKey l)
    have hrefl : ∀ a, NotAfter collation a a := fun a => (notAfter_total a a).elim id id
    let Either := fun a b => (NotAfter collation a b ∧ sortKey a ≤ sortKey b) ∨
      NotAfter collation b a ∧ sortKey b ≤ sortKey a
    haveI : Std.Symm Either := ⟨fun _ _ => Or.symm⟩
    have hself : ∀ a ∈ sortByKey sortKey l, Either a a := fun a _ => Or.inl ⟨hrefl a, le_rfl⟩
    have heither := List.Pairwise.forall_of_forall (R := Either) hself (hboth.imp Or.inl)
    obtain ⟨hafter, -⟩ | ⟨-, hle⟩ := heither (mem_sortByKey.mpr ha) (mem_sortByKey.mpr hb)
    · exact (notAfter_iff.mp hafter).elim (fun h => absurd horder h.ne) And.right
    · rw [sortKey_le] at hle
      omega
  · intro halike
    have hsorted : (sortByKey sortKey l).Pairwise (NotAfter collation) := by
      refine (sortByKey_pairwise sortKey l).imp_of_mem fun {a b} ha hb hle => ?_
      rw [mem_sortByKey] at ha hb
      rw [notAfter_iff]
      rcases sortKey_le.mp hle with hlt | ⟨horder, hle⟩
      · exact Or.inl hlt
      · refine Or.inr ⟨horder, ?_⟩
        rcases hle.lt_or_eq with hlt | hnat
        · exact halike a ha b hb horder hlt
        · have hzero := collation.antisymm a.blockId.uuid.text a.blockId.uuid.text
          rw [← BitVec.eq_of_toNat_eq hnat]
          omega
    have hperm : (l.insertionSort (NotAfter collation)).Perm (sortByKey sortKey l) :=
      (List.perm_insertionSort _ l).trans (sortByKey_perm sortKey l).symm
    refine hperm.eq_of_pairwise (fun a b ha hb hab hba => ?_) (notAfter_pairwise l) hsorted
    exact List.inj_on_of_nodup_map hl ((List.mem_insertionSort _).mp ha) (mem_sortByKey.mp hb) (hab.blockId_eq hba)

end Order

/-! ## Patches -/

section Patch

variable {D : Digests} {collation : Collation} {js : JsDocument} {jsPatch : JsPatch} {document : BlockDocument}
  {patch : BlockPatch}

theorem applyPatch_ok {document' : BlockDocument} :
    applyPatch D document patch = .ok document' ↔ ∃ blocks, Leaves document patch blocks ∧ document' =
      { document with
        blocks := sortByKey sortKey blocks
        revision := patch.targetRevision
        semanticDigest := documentDigest D document.taskId patch.targetRevision (sortByKey sortKey blocks) } := by
  unfold applyPatch Leaves
  split_ifs with hrevision
  · simp [hrevision]
  · rw [not_not] at hrevision
    cases patch.operations.foldlM (applyOperation patch.targetRevision) document.blocks with
    | error e => simp [bind, Except.bind]
    | ok blocks =>
        simp only [bind, Except.bind, pure, Except.pure, Except.ok.injEq, hrevision, true_and]
        constructor
        · rintro rfl
          exact ⟨blocks, rfl, rfl⟩
        · rintro ⟨_, rfl, rfl⟩
          rfl

theorem isOk_applyPatch : (applyPatch D document patch).isOk ↔ ∃ blocks, Leaves document patch blocks := by
  constructor
  · intro hok
    cases happly : applyPatch D document patch with
    | error e => simp [happly, Except.isOk, Except.toBool] at hok
    | ok document' =>
        obtain ⟨blocks, hleaves, -⟩ := applyPatch_ok.mp happly
        exact ⟨blocks, hleaves⟩
  · rintro ⟨blocks, hleaves⟩
    rw [applyPatch_ok.mpr ⟨blocks, hleaves, rfl⟩]
    rfl

variable (collation) in
/-- What the renderer does with a document of its own schema. -/
theorem applyBlockPatch_supported (hdoc : Represents heap js document) (hpatch : RepresentsPatch heap jsPatch patch)
    (hids : (document.blocks.map BlockEnvelope.blockId).Nodup)
    (hschema : document.schemaVersion = supportedSchemaVersion) :
    Extends heap.next heap (applyBlockPatch collation.compare heap js jsPatch).1 ∧
      ((∃ e, (applyBlockPatch collation.compare heap js jsPatch).2 = .error e ∧ ¬∃ blocks, Leaves document patch blocks) ∨
        ∃ blocks js', Leaves document patch blocks ∧ (applyBlockPatch collation.compare heap js jsPatch).2 = .ok js' ∧
          (blocks.map BlockEnvelope.blockId).Nodup ∧ js'.schemaVersion = document.schemaVersion ∧
          js'.taskId = document.taskId ∧ js'.revision = patch.targetRevision ∧
          js'.blocks.map (applyBlockPatch collation.compare heap js jsPatch).1.read =
            blocks.insertionSort (NotAfter collation)) := by
  unfold applyBlockPatch
  rw [if_neg (not_not.mpr (hdoc.schemaVersion.trans hschema))]
  by_cases hrevision : document.revision = patch.baseRevision
  · rw [if_neg (by rw [hdoc.revision, hpatch.baseRevision]; exact not_not.mpr hrevision)]
    obtain ⟨hext, hmirrors⟩ := cloneBlocks_mirrors hdoc.holds (Mirrors.nil heap.next heap) (Extends.refl _ _)
      (by rw [List.nil_append, hdoc.blocks]; exact hids)
    rw [List.nil_append, hdoc.blocks] at hmirrors
    have hagree := (applyJsOperations_agree hpatch.operations patch.targetRevision hmirrors hext).extend hext
    dsimp only
    rw [hpatch.targetRevision]
    generalize applyJsOperations _ _ _ _ = result at hagree ⊢
    generalize hfold : patch.operations.foldlM (applyOperation patch.targetRevision) document.blocks = result' at hagree
    cases hagree with
    | error hext' e e' =>
        refine ⟨hext', Or.inl ⟨e, rfl, fun ⟨blocks, _, hblocks⟩ => ?_⟩⟩
        rw [hfold] at hblocks
        cases hblocks
    | @ok heap' m blocks hext' h =>
        refine ⟨hext', Or.inr ⟨_, _, ⟨hrevision, hfold⟩, rfl, h.nodup, hdoc.schemaVersion, hdoc.taskId, rfl, ?_⟩⟩
        have hmap : (m.map Prod.snd).map heap'.read = blocks := List.map_map.trans h.read
        rw [← hmap]
        exact List.map_insertionSort _ _ _ _ fun _ _ _ _ => Iff.rfl
  · rw [if_pos (by rw [hdoc.revision, hpatch.baseRevision]; exact hrevision)]
    exact ⟨Extends.refl _ _, Or.inl ⟨_, rfl, fun ⟨_, hbase, _⟩ => hrevision hbase⟩⟩

variable (collation jsPatch) in
theorem applyBlockPatch_unsupported (hdoc : Represents heap js document)
    (hschema : document.schemaVersion ≠ supportedSchemaVersion) :
    applyBlockPatch collation.compare heap js jsPatch =
      (heap, .error ("unsupported BlockDocument " ++ toString js.schemaVersion)) := by
  unfold applyBlockPatch
  rw [if_pos (by rw [hdoc.schemaVersion]; exact hschema)]

/-- **Main result.** A patch is applied alike to a document of distinct identifiers if and only if it does not apply, or
the document has the renderer's schema and the locale orders what the patch leaves as the authority does. -/
theorem appliesAlike_iff (hdoc : Represents heap js document) (hpatch : RepresentsPatch heap jsPatch patch)
    (hids : (document.blocks.map BlockEnvelope.blockId).Nodup) :
    AppliesAlike D collation.compare heap js jsPatch document patch ↔
      ∀ blocks, Leaves document patch blocks →
        document.schemaVersion = supportedSchemaVersion ∧ OrderedAlike collation blocks := by
  by_cases hschema : document.schemaVersion = supportedSchemaVersion
  · obtain ⟨hext, ⟨e, hthrow, hfail⟩ | ⟨blocks, js', hleaves, hok, hnodup, hversion, htask, hrevision, hread⟩⟩ :=
      applyBlockPatch_supported collation hdoc hpatch hids hschema
    · refine iff_of_true ⟨?_, fun js' _ hok _ => ?_, fun r hr => ⟨hext.blocks r hr, hext.payloads r hr⟩⟩
        fun blocks hleaves => absurd ⟨blocks, hleaves⟩ hfail
      · rw [hthrow, Bool.eq_iff_iff]
        exact iff_of_false Bool.false_ne_true fun hok => hfail (isOk_applyPatch.mp hok)
      · rw [hthrow] at hok
        cases hok
    · have happly := applyPatch_ok (D := D).mpr ⟨blocks, hleaves, rfl⟩
      constructor
      · intro halike blocks' hleaves'
        obtain rfl : blocks' = blocks := Except.ok.inj (hleaves'.2.symm.trans hleaves.2)
        obtain ⟨-, -, -, hblocks⟩ := halike.alike js' _ hok happly
        exact ⟨hschema, (insertionSort_eq_sortByKey_iff hnodup).mp (hread.symm.trans hblocks)⟩
      · intro hordered
        refine ⟨?_, fun js'' document' hok' happly' => ?_, fun r hr => ⟨hext.blocks r hr, hext.payloads r hr⟩⟩
        · rw [hok, happly]
          rfl
        · obtain rfl := Except.ok.inj (hok.symm.trans hok')
          obtain rfl := Except.ok.inj (happly.symm.trans happly')
          exact ⟨hversion, htask, hrevision,
            hread.trans ((insertionSort_eq_sortByKey_iff hnodup).mpr (hordered blocks hleaves).2)⟩
  · have hthrow := applyBlockPatch_unsupported collation jsPatch hdoc hschema
    constructor
    · intro halike blocks hleaves
      have hthrows := halike.throws
      rw [hthrow, isOk_applyPatch.mpr ⟨blocks, hleaves⟩] at hthrows
      cases hthrows
    · intro hnone
      have hfail : ¬∃ blocks, Leaves document patch blocks := fun ⟨blocks, hleaves⟩ => hschema (hnone blocks hleaves).1
      refine ⟨?_, fun js' _ hok _ => ?_, ?_⟩
      · rw [hthrow, Bool.eq_iff_iff]
        exact iff_of_false Bool.false_ne_true fun hok => hfail (isOk_applyPatch.mp hok)
      · rw [hthrow] at hok
        cases hok
      · rw [hthrow]
        exact fun _ _ => ⟨rfl, rfl⟩

end Patch

/-! ### A patch to two messages -/

/-- Two messages whose identifiers end in `aa` and `ab`. -/
def sampleHeap (schemaVersion : Nat) : Heap where
  blocks r :=
    { schemaVersion
      blockId := ⟨BitVec.ofNat 128 (0xaa + r)⟩
      blockRevision := 1
      documentRevision := 1
      parentBlockId := none
      orderKey := 0
      taskId := ⟨1⟩
      kind := .message
      renderSlot := .timeline
      trustClass := .untrustedContent
      lifecycle := .draft
      attention := .none
      payload := r
      actions := [] }
  payloads _ := .message .agent "a" none
  next := 2

def sampleJsDocument (schemaVersion : Nat) : JsDocument where
  schemaVersion := schemaVersion
  taskId := ⟨1⟩
  revision := 1
  semanticDigest := "aa"
  blocks := [0, 1]

def sampleDocument (schemaVersion : Nat) : BlockDocument where
  schemaVersion := schemaVersion
  taskId := ⟨1⟩
  revision := 1
  semanticDigest := "aa"
  blocks := [(sampleHeap schemaVersion).read 0, (sampleHeap schemaVersion).read 1]

def sampleJsPatch : JsPatch where
  streamSequence := 2
  baseRevision := 1
  targetRevision := 2
  operations := [.appendContent ⟨0xaa⟩ 1 2 "b"]

def samplePatch : BlockPatch where
  streamSequence := 2
  baseRevision := 1
  targetRevision := 2
  operations := [.appendContent ⟨0xaa⟩ 1 2 "b"]

/-- The first message with its new text, and the second. -/
def samplePatched (schemaVersion : Nat) : List BlockEnvelope :=
  [{ (sampleHeap schemaVersion).read 0 with
      payload := .message .agent "ab" none
      blockRevision := 2
      documentRevision := 2 },
    (sampleHeap schemaVersion).read 1]

theorem sample_represents (schemaVersion : Nat) :
    Represents (sampleHeap schemaVersion) (sampleJsDocument schemaVersion) (sampleDocument schemaVersion) := by
  refine ⟨rfl, rfl, rfl, fun r hr => ?_, rfl⟩
  obtain rfl | hr := List.mem_cons.mp hr
  · exact ⟨Nat.zero_lt_two, Nat.zero_lt_two⟩
  · obtain rfl := List.mem_singleton.mp hr
    exact ⟨Nat.one_lt_two, Nat.one_lt_two⟩

theorem sample_representsPatch (heap : Heap) : RepresentsPatch heap sampleJsPatch samplePatch :=
  ⟨rfl, rfl, .cons (.appendContent _ _ _ _) .nil⟩

theorem sample_nodup (schemaVersion : Nat) :
    ((sampleDocument schemaVersion).blocks.map BlockEnvelope.blockId).Nodup := by
  show [BlockId.mk 0xaa, BlockId.mk 0xab].Nodup
  decide

theorem sample_leaves (schemaVersion : Nat) :
    Leaves (sampleDocument schemaVersion) samplePatch (samplePatched schemaVersion) := ⟨rfl, rfl⟩

theorem sample_orderedAlike : OrderedAlike root (samplePatched supportedSchemaVersion) := by
  intro a ha b hb
  obtain rfl | ha := List.mem_cons.mp ha
  · obtain rfl | hb := List.mem_cons.mp hb
    · exact fun _ h => absurd h (lt_irrefl _)
    · obtain rfl := List.mem_singleton.mp hb
      exact fun _ _ => by decide
  · obtain rfl := List.mem_singleton.mp ha
    obtain rfl | hb := List.mem_cons.mp hb
    · exact fun _ h => absurd h (by decide)
    · obtain rfl := List.mem_singleton.mp hb
      exact fun _ h => absurd h (lt_irrefl _)

theorem appliesAlike_iff_sample :
    AppliesAlike sampleDigests root.compare (sampleHeap supportedSchemaVersion) (sampleJsDocument supportedSchemaVersion)
      sampleJsPatch (sampleDocument supportedSchemaVersion) samplePatch := by
  refine (appliesAlike_iff (sample_represents _) (sample_representsPatch _) (sample_nodup _)).mpr ?_
  intro blocks hleaves
  obtain rfl : samplePatched supportedSchemaVersion = blocks :=
    Except.ok.inj ((sample_leaves supportedSchemaVersion).2.symm.trans hleaves.2)
  exact ⟨rfl, sample_orderedAlike⟩

/-- The renderer refuses every document of the authority, and a Danish host shows the two messages the other way
round. -/
theorem sample_not_alike :
    (Represents (sampleHeap blockSchemaVersion) (sampleJsDocument blockSchemaVersion) (sampleDocument blockSchemaVersion) ∧
        RepresentsPatch (sampleHeap blockSchemaVersion) sampleJsPatch samplePatch ∧
        ((sampleDocument blockSchemaVersion).blocks.map BlockEnvelope.blockId).Nodup ∧
        ¬AppliesAlike sampleDigests root.compare (sampleHeap blockSchemaVersion) (sampleJsDocument blockSchemaVersion)
          sampleJsPatch (sampleDocument blockSchemaVersion) samplePatch) ∧
      Represents (sampleHeap supportedSchemaVersion) (sampleJsDocument supportedSchemaVersion)
        (sampleDocument supportedSchemaVersion) ∧
      RepresentsPatch (sampleHeap supportedSchemaVersion) sampleJsPatch samplePatch ∧
      ((sampleDocument supportedSchemaVersion).blocks.map BlockEnvelope.blockId).Nodup ∧
      ¬AppliesAlike sampleDigests danish.compare (sampleHeap supportedSchemaVersion)
        (sampleJsDocument supportedSchemaVersion) sampleJsPatch (sampleDocument supportedSchemaVersion) samplePatch := by
  refine ⟨⟨sample_represents _, sample_representsPatch _, sample_nodup _, fun halike => ?_⟩, sample_represents _,
    sample_representsPatch _, sample_nodup _, fun halike => ?_⟩
  · have hthrows := halike.throws
    rw [isOk_applyPatch.mpr ⟨_, sample_leaves _⟩] at hthrows
    exact absurd hthrows (by decide)
  · obtain ⟨-, -, -, hblocks⟩ := halike.alike _ _ rfl (applyPatch_ok.mpr ⟨_, sample_leaves _, rfl⟩)
    exact absurd (congrArg (List.map BlockEnvelope.blockId) hblocks) (by decide)

end HyperTerm.Workbench
