import HyperTerm.Core.Projector

/-!
# The block store of the workbench

The renderer keeps a document of its own and applies the patches of the authority to it. It is written in JavaScript:
documents and patches hold references to blocks, a block holds a reference to its payload, and both are changed in
place. What is not changed in place stands here for itself, and an identifier for its text.

* `Heap` : what the references stand for;
* `applyBlockPatch` : `block-store.ts`. `localeCompare` is an argument, since it depends on the locale of the host.
-/

namespace HyperTerm.Workbench
open HyperTerm.Protocol HyperTerm.Lib HyperTerm.Core

/-- `BLOCK_SCHEMA_VERSION` of the workbench. -/
def supportedSchemaVersion : Nat := 2

/-! ## Objects -/

abbrev Ref := Nat

structure JsBlock where
  schemaVersion : Nat
  blockId : BlockId
  blockRevision : Nat
  documentRevision : Nat
  parentBlockId : Option BlockId
  orderKey : Nat
  taskId : TaskId
  kind : BlockKind
  renderSlot : RenderSlot
  trustClass : TrustClass
  lifecycle : BlockLifecycle
  attention : AttentionState
  payload : Ref
  actions : List BlockAction

/-- New objects are put at `next`. -/
structure Heap where
  blocks : Ref → JsBlock
  payloads : Ref → BlockPayload
  next : Ref

structure JsDocument where
  schemaVersion : Nat
  taskId : TaskId
  revision : Nat
  semanticDigest : String
  blocks : List Ref

inductive JsOperation where
  | upsert (block : Ref)
  | appendContent (blockId : BlockId) (expectedPreviousRevision blockRevision : Nat) (text : String)
  | remove (blockId : BlockId)

structure JsPatch where
  streamSequence : Nat
  baseRevision : Nat
  targetRevision : Nat
  operations : List JsOperation

namespace Heap

/-- The value of a block, with its payload. -/
def read (heap : Heap) (r : Ref) : BlockEnvelope :=
  let block := heap.blocks r
  { schemaVersion := block.schemaVersion
    blockId := block.blockId
    blockRevision := block.blockRevision
    documentRevision := block.documentRevision
    parentBlockId := block.parentBlockId
    orderKey := block.orderKey
    taskId := block.taskId
    kind := block.kind
    renderSlot := block.renderSlot
    trustClass := block.trustClass
    lifecycle := block.lifecycle
    attention := block.attention
    payload := heap.payloads block.payload
    actions := block.actions }

def setBlock (heap : Heap) (r : Ref) (block : JsBlock) : Heap :=
  { heap with blocks := Function.update heap.blocks r block }

def setPayload (heap : Heap) (r : Ref) (payload : BlockPayload) : Heap :=
  { heap with payloads := Function.update heap.payloads r payload }

/-- `structuredClone` of a block: a new block with a new payload. -/
def structuredClone (heap : Heap) (r : Ref) : Heap × Ref :=
  let block := heap.blocks r
  let cloned := (heap.setPayload heap.next (heap.payloads block.payload)).setBlock heap.next
    { block with payload := heap.next }
  ({ cloned with next := heap.next + 1 }, heap.next)

end Heap

/-! ## Maps -/

/-- A `Map`, in the order in which its keys were first set. -/
abbrev JsMap := List (BlockId × Ref)

namespace JsMap

def get (m : JsMap) (blockId : BlockId) : Option Ref := (findKey Prod.fst blockId m).map Prod.snd

def set (m : JsMap) (blockId : BlockId) (r : Ref) : JsMap :=
  if (m.get blockId).isSome then updateFirst (fun e => e.1 = blockId) (fun _ => (blockId, r)) m
  else m ++ [(blockId, r)]

def delete (m : JsMap) (blockId : BlockId) : JsMap := m.filter fun e => e.1 ≠ blockId

end JsMap

/-! ## `applyBlockPatch` -/

abbrev Thrown (α : Type) := Heap × Except String α

/-- `new Map` of the cloned blocks. -/
def cloneBlocks (heap : Heap) (m : JsMap) : List Ref → Heap × JsMap
  | [] => (heap, m)
  | r :: blocks =>
      let (heap', clone) := heap.structuredClone r
      cloneBlocks heap' (m.set (heap.blocks r).blockId clone) blocks

def applyJsOperation (targetRevision : Nat) (heap : Heap) (blocks : JsMap) : JsOperation → Thrown JsMap
  | .upsert r =>
      let block := heap.blocks r
      if (blocks.get block.blockId).any fun existing => (heap.blocks existing).kind ≠ block.kind then
        (heap, .error ("block " ++ block.blockId.uuid.text ++ " changed kind"))
      else
        let (heap', clone) := heap.structuredClone r
        (heap', .ok (blocks.set block.blockId clone))
  | .appendContent blockId expectedPreviousRevision blockRevision text =>
      match blocks.get blockId with
      | none => (heap, .error ("block " ++ blockId.uuid.text ++ " does not exist"))
      | some r =>
          let block := heap.blocks r
          if block.blockRevision ≠ expectedPreviousRevision then
            (heap, .error ("block " ++ blockId.uuid.text ++ " revision mismatch"))
          else
            match heap.payloads block.payload with
            | .message role existing externalMessageId =>
                ((heap.setPayload block.payload (.message role (existing ++ text) externalMessageId)).setBlock r
                  { block with blockRevision, documentRevision := targetRevision }, .ok blocks)
            | _ => (heap, .error ("block " ++ blockId.uuid.text ++ " is not a message"))
  | .remove blockId => (heap, .ok (blocks.delete blockId))

def applyJsOperations (targetRevision : Nat) (heap : Heap) (blocks : JsMap) : List JsOperation → Thrown JsMap
  | [] => (heap, .ok blocks)
  | operation :: operations =>
      match applyJsOperation targetRevision heap blocks operation with
      | (heap, .error e) => (heap, .error e)
      | (heap, .ok blocks) => applyJsOperations targetRevision heap blocks operations

variable (localeCompare : String → String → Int)

/-- The comparison that blocks are sorted by. -/
def compareBlocks (left right : BlockEnvelope) : Int :=
  if (left.orderKey : Int) - right.orderKey ≠ 0 then (left.orderKey : Int) - right.orderKey
  else localeCompare left.blockId.uuid.text right.blockId.uuid.text

def applyBlockPatch (heap : Heap) (document : JsDocument) (patch : JsPatch) : Thrown JsDocument :=
  if document.schemaVersion ≠ supportedSchemaVersion then
    (heap, .error ("unsupported BlockDocument " ++ toString document.schemaVersion))
  else if document.revision ≠ patch.baseRevision then
    (heap, .error ("patch base " ++ toString patch.baseRevision ++ " does not match " ++ toString document.revision))
  else
    let (heap, blocks) := cloneBlocks heap [] document.blocks
    match applyJsOperations patch.targetRevision heap blocks patch.operations with
    | (heap, .error e) => (heap, .error e)
    | (heap, .ok blocks) =>
        (heap, .ok { document with
          revision := patch.targetRevision
          semanticDigest := "pending_host_digest"
          blocks := (blocks.map Prod.snd).insertionSort fun left right =>
            compareBlocks localeCompare (heap.read left) (heap.read right) ≤ 0 })

end HyperTerm.Workbench
