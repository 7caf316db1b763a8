import HyperTerm.Lib.LineFile
import HyperTerm.Lib.OrderedMap
import HyperTerm.Lib.Result
import HyperTerm.Protocol.Ids
import Mathlib.Data.String.Basic
import Mathlib.Tactic.DeriveCountable

/-!
# The editor state of an artifact

`ArtifactEditorStore` keeps the draft files of one artifact revision: a snapshot, and a journal of what each save since
changed. A long journal is compacted: the snapshot is replaced, then the journal is emptied. A crash between the two
leaves a journal that overlaps the snapshot.

* `readState` : the snapshot, or the baseline, and the lines of the journal after it;
* `save` : one save as the writes it makes, in their order, and its result;
* `EditorWorld.step` : a save of which a crash may leave only the first writes.

Each write is atomic. JSON and SHA-256 are parameters (`EditorEncodings`).
-/

namespace HyperTerm.Daemon.EditorStore
open HyperTerm.Protocol HyperTerm.Lib

def legacyEditorStateSchemaVersion : Nat := 1
def editorStateSchemaVersion : Nat := 2
def maxEditorFiles : Nat := 1000
def maxEditorSourceBytes : Nat := 1024 * 1024
def maxVirtualPathBytes : Nat := 4 * 1024
def maxEditorSelections : Nat := 100
def maxEditorStateBytes : Nat := 2 * 1024 * 1024
def maxEditorJournalBytes : Nat := 10 * 1024 * 1024
def compactEveryRevisions : Nat := 64

inductive ArtifactEditorView where
  | code
  | diff
  | trace
  deriving DecidableEq, Countable

structure ArtifactEditorSelection where
  anchor : Nat
  head : Nat
  deriving DecidableEq, Countable

abbrev Files := OrderedMap String String

abbrev Selections := OrderedMap String ArtifactEditorSelection

structure ArtifactEditorCheckpointRequest where
  expectedRevision : Nat
  baseSourceRevision : Nat
  files : Files
  activePath : String
  view : ArtifactEditorView
  selections : Selections

structure ArtifactEditorCheckpoint where
  schemaVersion : Nat
  artifactId : ArtifactId
  baseSourceRevision : Nat
  revision : Nat
  stateDigest : String
  entrypoint : String
  files : Files
  activePath : String
  view : ArtifactEditorView
  selections : Selections

structure StoredEditorCheckpoint where
  schemaVersion : Nat
  taskId : TaskId
  artifactId : ArtifactId
  baseSourceRevision : Nat
  baselineDigest : Option String
  revision : Nat
  entrypoint : String
  files : Files
  activePath : String
  view : ArtifactEditorView
  selections : Selections
  deriving Countable

structure EditorTransaction where
  schemaVersion : Nat
  taskId : TaskId
  artifactId : ArtifactId
  baseSourceRevision : Nat
  baselineDigest : Option String
  revision : Nat
  changedFiles : Files
  activePath : String
  view : ArtifactEditorView
  selections : Selections
  deriving Countable

inductive ArtifactEditorStoreError where
  | invalidPath
  | contextMismatch
  | unsupportedSchema (version : Nat)
  | invalidFileSet
  | invalidEditorState
  | tooLarge
  | tornJournal
  | revisionGap
  | staleRevision (expected actual : Nat)
  | revisionOverflow
  | json
  deriving DecidableEq

/-- `serde_json` and SHA-256: the lines of the journal, the snapshot, the bytes of the two digests, and the digest in
lower-case hexadecimal. -/
structure EditorEncodings where
  transactions : LineCodec EditorTransaction
  encodeSnapshot : StoredEditorCheckpoint → List UInt8
  decodeSnapshot : List UInt8 → Option StoredEditorCheckpoint
  decode_encodeSnapshot : ∀ state, decodeSnapshot (encodeSnapshot state) = some state
  baselineBytes : Nat → String → Files → List UInt8
  stateBytes : StoredEditorCheckpoint → List UInt8
  sha256 : List UInt8 → String

/-- What a call knows of the artifact. -/
structure EditorContext where
  taskId : TaskId
  artifactId : ArtifactId
  baseSourceRevision : Nat
  entrypoint : String
  baselineFiles : Files

variable (E : EditorEncodings) (ctx : EditorContext)

/-- `editor_baseline_digest`. -/
def EditorContext.baselineDigest : String :=
  E.sha256 (E.baselineBytes ctx.baseSourceRevision ctx.entrypoint ctx.baselineFiles)

/-- The state before the first save. -/
def EditorContext.baseline : StoredEditorCheckpoint where
  schemaVersion := editorStateSchemaVersion
  taskId := ctx.taskId
  artifactId := ctx.artifactId
  baseSourceRevision := ctx.baseSourceRevision
  baselineDigest := some (ctx.baselineDigest E)
  revision := 0
  entrypoint := ctx.entrypoint
  files := ctx.baselineFiles
  activePath := ctx.entrypoint
  view := .code
  selections := .empty

def checkpointFromStored (stored : StoredEditorCheckpoint) : ArtifactEditorCheckpoint where
  schemaVersion := stored.schemaVersion
  artifactId := stored.artifactId
  baseSourceRevision := stored.baseSourceRevision
  revision := stored.revision
  stateDigest := E.sha256 (E.stateBytes stored)
  entrypoint := stored.entrypoint
  files := stored.files
  activePath := stored.activePath
  view := stored.view
  selections := stored.selections

/-! ## Checks -/

def validVirtualPath (path : String) : Bool :=
  path.toList.head? = some '/' && path.utf8ByteSize ≤ maxVirtualPathBytes && '\x00' ∉ path.toList &&
    '\\' ∉ path.toList && ['.', '.'] ∉ path.toList.splitOn '/'

def sourceBytes (files : Files) : Nat :=
  (files.entries.map fun file => file.1.utf8ByteSize + file.2.utf8ByteSize).sum

/-- A sum that does not fit a `usize` is past the bound as well. -/
def validateEditorState (entrypoint : String) (files : Files) (activePath : String) (selections : Selections) :
    Except ArtifactEditorStoreError Unit :=
  if files.size = 0 ∨ maxEditorFiles < files.size ∨ entrypoint ∉ files.keys ∨ activePath ∉ files.keys ∨
      maxEditorSelections < selections.size ∨ (∃ path ∈ selections.keys, path ∉ files.keys) ∨
      (∃ path ∈ files.keys, validVirtualPath path = false) then
    .error .invalidEditorState
  else if maxEditorSourceBytes < sourceBytes files ∨
      (∃ selection ∈ selections.values,
        maxEditorSourceBytes < selection.anchor ∨ maxEditorSourceBytes < selection.head) then
    .error .tooLarge
  else .ok ()

def validateFixedFileSet (baseline files : Files) : Except ArtifactEditorStoreError Unit :=
  if baseline.keys ≠ files.keys then .error .invalidFileSet else .ok ()

def validateStoredContext (state : StoredEditorCheckpoint) : Except ArtifactEditorStoreError Unit := do
  if state.schemaVersion ≠ editorStateSchemaVersion ∨ state.taskId ≠ ctx.taskId ∨ state.artifactId ≠ ctx.artifactId ∨
      state.baseSourceRevision ≠ ctx.baseSourceRevision ∨ state.baselineDigest ≠ some (ctx.baselineDigest E) ∨
      state.entrypoint ≠ ctx.entrypoint then
    .error .contextMismatch
  else do
    validateFixedFileSet ctx.baselineFiles state.files
    validateEditorState state.entrypoint state.files state.activePath state.selections

def validateTransactionContext (transaction : EditorTransaction) : Except ArtifactEditorStoreError Unit :=
  if transaction.schemaVersion ≠ editorStateSchemaVersion ∨ transaction.taskId ≠ ctx.taskId ∨
      transaction.artifactId ≠ ctx.artifactId ∨ transaction.baseSourceRevision ≠ ctx.baseSourceRevision ∨
      transaction.baselineDigest ≠ some (ctx.baselineDigest E) ∨ transaction.revision = 0 ∨
      maxEditorFiles < transaction.changedFiles.size then
    .error .contextMismatch
  else .ok ()

/-! ## Schemas -/

/-- Both kinds of record are migrated alike: whether one of this version and digest is of the legacy schema. -/
def migrateSchema (expected : String) (version : Nat) (digest : Option String) : Except ArtifactEditorStoreError Bool :=
  if version = legacyEditorStateSchemaVersion ∧ digest = none then .ok true
  else if version = editorStateSchemaVersion ∧ digest = some expected then .ok false
  else if version = legacyEditorStateSchemaVersion ∨ version = editorStateSchemaVersion then .error .contextMismatch
  else .error (.unsupportedSchema version)

def migrateStoredCheckpoint (expected : String) (state : StoredEditorCheckpoint) :
    Except ArtifactEditorStoreError (StoredEditorCheckpoint × Bool) := do
  let migrated ← migrateSchema expected state.schemaVersion state.baselineDigest
  return (if migrated then { state with schemaVersion := editorStateSchemaVersion, baselineDigest := some expected }
    else state, migrated)

def migrateTransaction (expected : String) (transaction : EditorTransaction) :
    Except ArtifactEditorStoreError (EditorTransaction × Bool) := do
  let migrated ← migrateSchema expected transaction.schemaVersion transaction.baselineDigest
  return (if migrated then
      { transaction with schemaVersion := editorStateSchemaVersion, baselineDigest := some expected }
    else transaction, migrated)

/-! ## The files -/

/-- What the store has on disk of one artifact. -/
structure EditorDisk where
  taskRoot : Bool
  snapshot : Option (List UInt8)
  journal : Option (List UInt8)

inductive Write where
  | createTaskRoot
  | append (line : List UInt8)
  | replaceSnapshot (encoded : List UInt8)
  | emptyJournal

def EditorDisk.apply (disk : EditorDisk) : Write → EditorDisk
  | .createTaskRoot => { disk with taskRoot := true }
  | .append line => { disk with journal := some (disk.journal.getD [] ++ (line ++ [newline])) }
  | .replaceSnapshot encoded => { disk with snapshot := some encoded }
  | .emptyJournal => { disk with journal := some [] }

def EditorDisk.applyAll (disk : EditorDisk) (writes : List Write) : EditorDisk := writes.foldl EditorDisk.apply disk

def EditorDisk.journalBytes (disk : EditorDisk) : Nat := (disk.journal.getD []).length

/-- A call: the writes it makes, and what it returns after them. -/
structure Effect (ε α : Type) where
  writes : List Write
  result : Except ε α

/-! ## Loading -/

/-- The delta of a transaction, on the state before it. -/
def applyTransaction (state : StoredEditorCheckpoint) (transaction : EditorTransaction) :
    Except ArtifactEditorStoreError StoredEditorCheckpoint := do
  let files ← okOr (state.files.overlay transaction.changedFiles.entries) .invalidFileSet
  let state := { state with
    files := files
    revision := transaction.revision
    activePath := transaction.activePath
    view := transaction.view
    selections := transaction.selections }
  validateStoredContext E ctx state
  return state

/-- One line of the journal; also whether it was of the legacy schema. -/
def replayLine (state : StoredEditorCheckpoint) (line : List UInt8) :
    Except ArtifactEditorStoreError (StoredEditorCheckpoint × Bool) :=
  if maxEditorStateBytes < line.length then .error .tooLarge
  else do
    let transaction ← okOr (E.transactions.decode line) .json
    let migrated ← migrateTransaction (ctx.baselineDigest E) transaction
    validateTransactionContext E ctx migrated.1
    -- what the snapshot already has
    if migrated.1.revision ≤ state.revision then return (state, migrated.2)
    else if migrated.1.revision ≠ state.revision + 1 then .error .revisionGap
    else do
      let state ← applyTransaction E ctx state migrated.1
      return (state, migrated.2)

def replayLines (state : StoredEditorCheckpoint) :
    List (List UInt8) → Except ArtifactEditorStoreError (StoredEditorCheckpoint × Bool)
  | [] => .ok (state, false)
  | line :: lines => do
      let replayed ← replayLine E ctx state line
      let rest ← replayLines replayed.1 lines
      return (rest.1, replayed.2 || rest.2)

def readSnapshot (snapshot : Option (List UInt8)) : Except ArtifactEditorStoreError (StoredEditorCheckpoint × Bool) :=
  match snapshot with
  | none => .ok (ctx.baseline E, false)
  | some encoded =>
      if maxEditorStateBytes < encoded.length then .error .invalidPath
      else do
        let state ← okOr (E.decodeSnapshot encoded) .json
        let migrated ← migrateStoredCheckpoint (ctx.baselineDigest E) state
        validateStoredContext E ctx migrated.1
        return migrated

def readJournal (state : StoredEditorCheckpoint) (journal : Option (List UInt8)) :
    Except ArtifactEditorStoreError (StoredEditorCheckpoint × Bool) :=
  match journal with
  | none => .ok (state, false)
  | some encoded =>
      if maxEditorJournalBytes < encoded.length then .error .invalidPath
      else if ¬WholeLines encoded then .error .tornJournal
      else replayLines E ctx state (fileLines encoded)

/-- `load` up to the migration: the state, and whether something on disk is of the legacy schema. -/
def readState (disk : EditorDisk) : Except ArtifactEditorStoreError (StoredEditorCheckpoint × Bool) := do
  validateEditorState ctx.entrypoint ctx.baselineFiles ctx.entrypoint .empty
  if disk.taskRoot = false then return (ctx.baseline E, false)
  else do
    let snapshot ← readSnapshot E ctx disk.snapshot
    let replayed ← readJournal E ctx snapshot.1 disk.journal
    return (replayed.1, snapshot.2 || replayed.2)

def load (disk : EditorDisk) : Effect ArtifactEditorStoreError ArtifactEditorCheckpoint :=
  match readState E ctx disk with
  | .error error => ⟨[], .error error⟩
  | .ok (state, migrationRequired) =>
      if migrationRequired then
        if maxEditorStateBytes < (E.encodeSnapshot state).length then ⟨[], .error .tooLarge⟩
        else ⟨[.replaceSnapshot (E.encodeSnapshot state), .emptyJournal], .ok (checkpointFromStored E state)⟩
      else ⟨[], .ok (checkpointFromStored E state)⟩

/-! ## Saving -/

/-- `changed_files`. -/
def changedFiles (current files : Files) : Files :=
  files.filter fun file => current.get? file.1 ≠ some file.2

def transactionOf (revision : Nat) (current : Files) (request : ArtifactEditorCheckpointRequest) :
    EditorTransaction where
  schemaVersion := editorStateSchemaVersion
  taskId := ctx.taskId
  artifactId := ctx.artifactId
  baseSourceRevision := ctx.baseSourceRevision
  baselineDigest := some (ctx.baselineDigest E)
  revision := revision
  changedFiles := changedFiles current request.files
  activePath := request.activePath
  view := request.view
  selections := request.selections

/-- What `append_transaction` writes, up to the newline. -/
def lineOf (revision : Nat) (current : Files) (request : ArtifactEditorCheckpointRequest) : List UInt8 :=
  E.transactions.encode (transactionOf E ctx revision current request)

def storedOf (revision : Nat) (request : ArtifactEditorCheckpointRequest) : StoredEditorCheckpoint where
  schemaVersion := editorStateSchemaVersion
  taskId := ctx.taskId
  artifactId := ctx.artifactId
  baseSourceRevision := ctx.baseSourceRevision
  baselineDigest := some (ctx.baselineDigest E)
  revision := revision
  entrypoint := ctx.entrypoint
  files := request.files
  activePath := request.activePath
  view := request.view
  selections := request.selections

/-- The checks of `save` on what was loaded: the revision that the request becomes, none when it changes nothing. -/
def checkSave (current : ArtifactEditorCheckpoint) (request : ArtifactEditorCheckpointRequest) :
    Except ArtifactEditorStoreError (Option Nat) := do
  if request.expectedRevision ≠ current.revision then
    .error (.staleRevision current.revision request.expectedRevision)
  else do
    validateFixedFileSet ctx.baselineFiles request.files
    validateEditorState ctx.entrypoint request.files request.activePath request.selections
    if current.files = request.files ∧ current.activePath = request.activePath ∧ current.view = request.view ∧
        current.selections = request.selections then
      return none
    else if current.revision + 1 < 2 ^ 64 then return some (current.revision + 1)
    else .error .revisionOverflow

/-- The end of `save`: the transaction is appended, and the journal compacted when it is time for it. -/
def commit (disk : EditorDisk) (line : List UInt8) (stored : StoredEditorCheckpoint) :
    Effect ArtifactEditorStoreError ArtifactEditorCheckpoint :=
  if maxEditorStateBytes < line.length then ⟨[.createTaskRoot], .error .tooLarge⟩
  else if stored.revision % compactEveryRevisions = 0 ∨
      maxEditorJournalBytes / 2 < (disk.applyAll [.createTaskRoot, .append line]).journalBytes then
    if maxEditorStateBytes < (E.encodeSnapshot stored).length then
      ⟨[.createTaskRoot, .append line], .error .tooLarge⟩
    else
      ⟨[.createTaskRoot, .append line, .replaceSnapshot (E.encodeSnapshot stored), .emptyJournal],
        .ok (checkpointFromStored E stored)⟩
  else ⟨[.createTaskRoot, .append line], .ok (checkpointFromStored E stored)⟩

def save (disk : EditorDisk) (request : ArtifactEditorCheckpointRequest) :
    Effect ArtifactEditorStoreError ArtifactEditorCheckpoint :=
  let ctx := { ctx with baseSourceRevision := request.baseSourceRevision }
  let loaded := load E ctx disk
  match loaded.result with
  | .error error => ⟨loaded.writes, .error error⟩
  | .ok current =>
      match checkSave ctx current request with
      | .error error => ⟨loaded.writes, .error error⟩
      | .ok none => ⟨loaded.writes, .ok current⟩
      | .ok (some revision) =>
          let line := lineOf E ctx revision current.files request
          let committed := commit E (disk.applyAll loaded.writes) line (storedOf E ctx revision request)
          ⟨loaded.writes ++ committed.writes, committed.result⟩

inductive ArtifactEditorError where
  | staleRevision
  | store (error : ArtifactEditorStoreError)

/-- The handler of a save: the base revision of a request is that of the artifact. -/
def saveArtifactEditorState (disk : EditorDisk) (request : ArtifactEditorCheckpointRequest) :
    Effect ArtifactEditorError ArtifactEditorCheckpoint :=
  if request.baseSourceRevision ≠ ctx.baseSourceRevision then ⟨[], .error .staleRevision⟩
  else
    let saved := save E ctx disk request
    ⟨saved.writes, saved.result.mapError .store⟩

/-! ## Runs -/

/-- An artifact was checked when it was published. -/
structure PublishedArtifact extends EditorContext where
  valid : validateEditorState entrypoint baselineFiles entrypoint .empty = .ok ()

/-- A save; a crash cuts it after the given number of writes. -/
structure SaveCall where
  request : ArtifactEditorCheckpointRequest
  cut : Option Nat

/-- The disk, and the saves whose transaction was appended. -/
structure EditorWorld where
  disk : EditorDisk
  saves : List ArtifactEditorCheckpointRequest

def Write.isAppend : Write → Bool
  | .append _ => true
  | _ => false

def SaveCall.executed (call : SaveCall) (disk : EditorDisk) : List Write :=
  let writes := (saveArtifactEditorState E ctx disk call.request).writes
  match call.cut with
  | none => writes
  | some count => writes.take count

def EditorWorld.step (w : EditorWorld) (call : SaveCall) : EditorWorld where
  disk := w.disk.applyAll (call.executed E ctx w.disk)
  saves := if (call.executed E ctx w.disk).any Write.isAppend then w.saves ++ [call.request] else w.saves

/-- The directory of the task may have been there before the artifact. -/
def EditorWorld.start (taskRoot : Bool) : EditorWorld := ⟨⟨taskRoot, none, none⟩, []⟩

def EditorWorld.run (taskRoot : Bool) (calls : List SaveCall) : EditorWorld :=
  calls.foldl (EditorWorld.step E ctx) (.start taskRoot)

/-! ## What the store is for -/

def StoredEditorCheckpoint.saved (state : StoredEditorCheckpoint) (request : ArtifactEditorCheckpointRequest) :
    StoredEditorCheckpoint :=
  { state with
    revision := state.revision + 1
    files := request.files
    activePath := request.activePath
    view := request.view
    selections := request.selections }

/-- The saves, folded from the baseline. -/
def EditorContext.folded (requests : List ArtifactEditorCheckpointRequest) : StoredEditorCheckpoint :=
  requests.foldl StoredEditorCheckpoint.saved (ctx.baseline E)

/-- A load returns the state of the last appended transaction, and the journal is one that a load accepts. -/
def Recovers (w : EditorWorld) : Prop :=
  load E ctx w.disk = ⟨[], .ok (checkpointFromStored E (ctx.folded E w.saves))⟩ ∧
    w.disk.journalBytes ≤ maxEditorJournalBytes

/-- If the request is one that is saved, its line fits the journal as it stands. -/
def AppendFits (w : EditorWorld) (request : ArtifactEditorCheckpointRequest) : Prop :=
  ∀ revision, request.baseSourceRevision = ctx.baseSourceRevision →
    checkSave ctx (checkpointFromStored E (ctx.folded E w.saves)) request = .ok (some revision) →
    (lineOf E ctx revision (ctx.folded E w.saves).files request).length ≤ maxEditorStateBytes →
      w.disk.journalBytes + (lineOf E ctx revision (ctx.folded E w.saves).files request).length + 1 ≤
        maxEditorJournalBytes

end HyperTerm.Daemon.EditorStore
