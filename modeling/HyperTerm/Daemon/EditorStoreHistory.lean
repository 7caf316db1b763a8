import HyperTerm.Daemon.EditorStore
import HyperTerm.Lib.Text

/-!
# Histories of the editor store

`Layout` says what is on disk after any run: the saves that were appended are three pieces, of which the snapshot has the
first two and the journal the last two. A crash between the writes of a compaction moves the saves from one piece to
another. From it a load is the fold of all the saves, unless the journal is longer than a load accepts.

* `readState_eq` : what a load reads from such a disk;
* `layout_step`, `layout_run` : every save, cut anywhere, keeps the layout;
* `editorStore_history` : every load succeeds just when every appended line fits the journal.
-/

namespace HyperTerm.Daemon.EditorStore
open HyperTerm.Protocol HyperTerm.Lib

variable {E : EditorEncodings} {ctx : EditorContext}

/-! ## Folded saves -/

/-- The checks of a request that need nothing but the artifact. -/
structure Saveable (ctx : EditorContext) (request : ArtifactEditorCheckpointRequest) : Prop where
  fileSet : validateFixedFileSet ctx.baselineFiles request.files = .ok ()
  editorState : validateEditorState ctx.entrypoint request.files request.activePath request.selections = .ok ()

theorem validateFixedFileSet_eq_ok {baseline files : Files} :
    validateFixedFileSet baseline files = .ok () ↔ baseline.keys = files.keys := by
  unfold validateFixedFileSet
  split <;> simp_all

theorem Saveable.keys {request : ArtifactEditorCheckpointRequest} (h : Saveable ctx request) :
    ctx.baselineFiles.keys = request.files.keys := validateFixedFileSet_eq_ok.mp h.fileSet

theorem Saveable.size_le {request : ArtifactEditorCheckpointRequest} (h : Saveable ctx request) :
    request.files.size ≤ maxEditorFiles := by
  have hstate := h.editorState
  unfold validateEditorState at hstate
  split at hstate
  · exact nomatch hstate
  · rename_i hnot
    simp only [not_or, Nat.not_lt] at hnot
    exact hnot.2.1

theorem validateStoredContext_eq_ok {state : StoredEditorCheckpoint} :
    validateStoredContext E ctx state = .ok () ↔
      state.schemaVersion = editorStateSchemaVersion ∧ state.taskId = ctx.taskId ∧ state.artifactId = ctx.artifactId ∧
        state.baseSourceRevision = ctx.baseSourceRevision ∧ state.baselineDigest = some (ctx.baselineDigest E) ∧
        state.entrypoint = ctx.entrypoint ∧ ctx.baselineFiles.keys = state.files.keys ∧
        validateEditorState state.entrypoint state.files state.activePath state.selections = .ok () := by
  unfold validateStoredContext
  split
  · rename_i h
    refine ⟨fun h => (nomatch h), fun hok => ?_⟩
    obtain ⟨h1, h2, h3, h4, h5, h6, -⟩ := hok
    simp [h1, h2, h3, h4, h5, h6] at h
  · rename_i h
    simp only [not_or, not_not] at h
    obtain ⟨h1, h2, h3, h4, h5, h6⟩ := h
    simp only [bind_eq_ok, h1, h2, h3, h4, h5, h6, true_and]
    constructor
    · rintro ⟨_, hkeys, hstate⟩
      exact ⟨validateFixedFileSet_eq_ok.mp hkeys, hstate⟩
    · rintro ⟨hkeys, hstate⟩
      exact ⟨(), validateFixedFileSet_eq_ok.mpr hkeys, hstate⟩

theorem validateStoredContext_saved {state : StoredEditorCheckpoint} {request : ArtifactEditorCheckpointRequest}
    (h : validateStoredContext E ctx state = .ok ()) (hrequest : Saveable ctx request) :
    validateStoredContext E ctx (state.saved request) = .ok () := by
  obtain ⟨h1, h2, h3, h4, h5, h6, -, -⟩ := validateStoredContext_eq_ok.mp h
  refine validateStoredContext_eq_ok.mpr ⟨h1, h2, h3, h4, h5, h6, hrequest.keys, ?_⟩
  show validateEditorState state.entrypoint _ _ _ = _
  rw [h6]
  exact hrequest.editorState

theorem folded_append (requests more : List ArtifactEditorCheckpointRequest) :
    ctx.folded E (requests ++ more) = more.foldl StoredEditorCheckpoint.saved (ctx.folded E requests) :=
  List.foldl_append

theorem folded_concat (requests : List ArtifactEditorCheckpointRequest) (request : ArtifactEditorCheckpointRequest) :
    ctx.folded E (requests ++ [request]) = (ctx.folded E requests).saved request := folded_append _ _

theorem revision_foldl (state : StoredEditorCheckpoint) (requests : List ArtifactEditorCheckpointRequest) :
    (requests.foldl StoredEditorCheckpoint.saved state).revision = state.revision + requests.length := by
  induction requests generalizing state with
  | nil => rfl
  | cons request requests ih =>
      rw [List.foldl_cons, ih, List.length_cons]
      show state.revision + 1 + requests.length = _
      omega

/-- What the end of a save stores is the next state of the fold. -/
theorem storedOf_eq_saved {state : StoredEditorCheckpoint} (h : validateStoredContext E ctx state = .ok ())
    (request : ArtifactEditorCheckpointRequest) : storedOf E ctx (state.revision + 1) request = state.saved request := by
  obtain ⟨h1, h2, h3, h4, h5, h6, -, -⟩ := validateStoredContext_eq_ok.mp h
  unfold storedOf StoredEditorCheckpoint.saved
  rw [h1, h2, h3, h4, h5, h6]

/-- The transactions that the requests become, from a state on. -/
def journaled (E : EditorEncodings) (ctx : EditorContext) (state : StoredEditorCheckpoint) :
    List ArtifactEditorCheckpointRequest → List EditorTransaction
  | [] => []
  | request :: requests =>
      transactionOf E ctx (state.revision + 1) state.files request :: journaled E ctx (state.saved request) requests

theorem journaled_append (state : StoredEditorCheckpoint) (requests more : List ArtifactEditorCheckpointRequest) :
    journaled E ctx state (requests ++ more) =
      journaled E ctx state requests ++ journaled E ctx (requests.foldl StoredEditorCheckpoint.saved state) more := by
  induction requests generalizing state with
  | nil => rfl
  | cons request requests ih =>
      rw [List.cons_append, journaled, ih]
      rfl

theorem journaled_eq_nil {state : StoredEditorCheckpoint} {requests : List ArtifactEditorCheckpointRequest} :
    journaled E ctx state requests = [] ↔ requests = [] := by
  cases requests <;> simp [journaled]

theorem mem_journaled {state : StoredEditorCheckpoint} {requests : List ArtifactEditorCheckpointRequest}
    {transaction : EditorTransaction} (h : transaction ∈ journaled E ctx state requests) :
    ∃ revision current request, request ∈ requests ∧ transaction = transactionOf E ctx revision current request ∧
      revision ≠ 0 ∧ revision ≤ state.revision + requests.length := by
  induction requests generalizing state with
  | nil => exact absurd h List.not_mem_nil
  | cons request requests ih =>
      rw [List.length_cons]
      rcases List.mem_cons.mp h with rfl | h
      · exact ⟨_, _, request, List.mem_cons_self, rfl, Nat.succ_ne_zero _, by omega⟩
      · obtain ⟨revision, current, other, hmem, htransaction, hrevision, hle⟩ := ih h
        refine ⟨revision, current, other, List.mem_cons_of_mem _ hmem, htransaction, hrevision, ?_⟩
        change revision ≤ state.revision + 1 + requests.length at hle
        omega

/-! ## Replaying lines -/

/-- The transaction passes the checks that every line has to pass. -/
structure Replayable (E : EditorEncodings) (ctx : EditorContext) (transaction : EditorTransaction) : Prop where
  length : (E.transactions.encode transaction).length ≤ maxEditorStateBytes
  schema : transaction.schemaVersion = editorStateSchemaVersion
  digest : transaction.baselineDigest = some (ctx.baselineDigest E)
  context : validateTransactionContext E ctx transaction = .ok ()

theorem replayable_transactionOf {revision : Nat} {current : Files} {request : ArtifactEditorCheckpointRequest}
    (hrevision : revision ≠ 0) (hrequest : Saveable ctx request)
    (hlength : (lineOf E ctx revision current request).length ≤ maxEditorStateBytes) :
    Replayable E ctx (transactionOf E ctx revision current request) := by
  refine ⟨hlength, rfl, rfl, ?_⟩
  have hsize : (changedFiles current request.files).size ≤ maxEditorFiles :=
    (List.filter_sublist.length_le).trans hrequest.size_le
  unfold validateTransactionContext
  rw [if_neg]
  simp only [transactionOf, ne_eq, not_true_eq_false, false_or, not_or, Nat.not_lt]
  exact ⟨hrevision, hsize⟩

theorem migrateSchema_current (expected : String) :
    migrateSchema expected editorStateSchemaVersion (some expected) = .ok false := by
  unfold migrateSchema
  rw [if_neg (by simp), if_pos ⟨rfl, rfl⟩]

/-- A line of the current schema, on the state before it. -/
theorem replayLine_encode {state : StoredEditorCheckpoint} {transaction : EditorTransaction}
    (h : Replayable E ctx transaction) :
    replayLine E ctx state (E.transactions.encode transaction) =
      if transaction.revision ≤ state.revision then .ok (state, false)
      else if transaction.revision ≠ state.revision + 1 then .error .revisionGap
      else (applyTransaction E ctx state transaction).map fun state => (state, false) := by
  have hmigrate : migrateTransaction (ctx.baselineDigest E) transaction = .ok (transaction, false) := by
    unfold migrateTransaction
    rw [h.schema, h.digest, migrateSchema_current]
    rfl
  unfold replayLine
  rw [if_neg (Nat.not_lt.mpr h.length), E.transactions.decode_encode]
  simp only [okOr, hmigrate, h.context, bind, Except.bind]
  cases applyTransaction E ctx state transaction <;> rfl

theorem applyTransaction_transactionOf {state : StoredEditorCheckpoint} {request : ArtifactEditorCheckpointRequest}
    (h : validateStoredContext E ctx state = .ok ()) (hrequest : Saveable ctx request) :
    applyTransaction E ctx state (transactionOf E ctx (state.revision + 1) state.files request) =
      .ok (state.saved request) := by
  have hkeys : state.files.keys = request.files.keys := by
    rw [← hrequest.keys]
    obtain ⟨-, -, -, -, -, -, hkeys, -⟩ := validateStoredContext_eq_ok.mp h
    exact hkeys.symm
  have hoverlay : state.files.overlay (changedFiles state.files request.files).entries = some request.files :=
    OrderedMap.overlay_filter hkeys
  have hvalid := validateStoredContext_saved h hrequest
  unfold applyTransaction
  show (okOr (state.files.overlay (changedFiles state.files request.files).entries) _ >>= _) = _
  rw [hoverlay]
  simp only [okOr, bind, Except.bind, transactionOf]
  unfold StoredEditorCheckpoint.saved at hvalid ⊢
  rw [hvalid]
  rfl

/-- The line of the next save, on the state before it. -/
theorem replayLine_transactionOf {state : StoredEditorCheckpoint} {request : ArtifactEditorCheckpointRequest}
    (h : validateStoredContext E ctx state = .ok ()) (hrequest : Saveable ctx request)
    (hlength : (lineOf E ctx (state.revision + 1) state.files request).length ≤ maxEditorStateBytes) :
    replayLine E ctx state (lineOf E ctx (state.revision + 1) state.files request) = .ok (state.saved request, false) := by
  have hreplayable : Replayable E ctx (transactionOf E ctx (state.revision + 1) state.files request) :=
    replayable_transactionOf (Nat.succ_ne_zero _) hrequest hlength
  have hahead : ¬(transactionOf E ctx (state.revision + 1) state.files request).revision ≤ state.revision :=
    Nat.not_succ_le_self _
  have hnext : ¬(transactionOf E ctx (state.revision + 1) state.files request).revision ≠ state.revision + 1 :=
    not_not.mpr rfl
  unfold lineOf
  rw [replayLine_encode hreplayable, if_neg hahead, if_neg hnext, applyTransaction_transactionOf h hrequest]
  rfl

/-- Lines that the state already has are skipped. -/
theorem replayLines_skip {state : StoredEditorCheckpoint} {transactions : List EditorTransaction}
    (h : ∀ transaction ∈ transactions, Replayable E ctx transaction ∧ transaction.revision ≤ state.revision)
    (lines : List (List UInt8)) :
    replayLines E ctx state (transactions.map E.transactions.encode ++ lines) = replayLines E ctx state lines := by
  induction transactions with
  | nil => rfl
  | cons transaction transactions ih =>
      obtain ⟨⟨hreplayable, hrevision⟩, hrest⟩ := List.forall_mem_cons.mp h
      rw [List.map_cons, List.cons_append, replayLines, replayLine_encode hreplayable, if_pos hrevision]
      simp only [bind, Except.bind, ih hrest]
      cases replayLines E ctx state lines <;> rfl

/-- The lines after the state are applied one after the other. -/
theorem replayLines_journaled {state : StoredEditorCheckpoint} {requests : List ArtifactEditorCheckpointRequest}
    (h : validateStoredContext E ctx state = .ok ()) (hrequests : ∀ request ∈ requests, Saveable ctx request)
    (hlength : ∀ transaction ∈ journaled E ctx state requests,
      (E.transactions.encode transaction).length ≤ maxEditorStateBytes) :
    replayLines E ctx state ((journaled E ctx state requests).map E.transactions.encode) =
      .ok (requests.foldl StoredEditorCheckpoint.saved state, false) := by
  induction requests generalizing state with
  | nil => rfl
  | cons request requests ih =>
      obtain ⟨hrequest, hrest⟩ := List.forall_mem_cons.mp hrequests
      obtain ⟨hhead, htail⟩ := List.forall_mem_cons.mp hlength
      have hline := replayLine_transactionOf h hrequest hhead
      unfold lineOf at hline
      rw [journaled, List.map_cons, replayLines, hline]
      simp only [bind, Except.bind]
      rw [ih (validateStoredContext_saved h hrequest) hrest htail]
      rfl

/-! ## What is on disk -/

/-- The saves are in three pieces: the snapshot has `before` and `between`, the journal has `between` and `after`. -/
structure Layout (E : EditorEncodings) (ctx : EditorContext) (w : EditorWorld)
    (before between after : List ArtifactEditorCheckpointRequest) : Prop where
  saves : w.saves = before ++ between ++ after
  snapshot : before ++ between = [] ∧ w.disk.snapshot = none ∨
    w.disk.snapshot = some (E.encodeSnapshot (ctx.folded E (before ++ between))) ∧
      (E.encodeSnapshot (ctx.folded E (before ++ between))).length ≤ maxEditorStateBytes
  journal : w.disk.journal.getD [] =
    E.transactions.render (journaled E ctx (ctx.folded E before) (between ++ after))
  taskRoot : w.disk.taskRoot = false → w.saves = []
  saveable : ∀ request ∈ w.saves, Saveable ctx request
  lines : ∀ transaction ∈ journaled E ctx (ctx.baseline E) w.saves,
    (E.transactions.encode transaction).length ≤ maxEditorStateBytes

variable {a : PublishedArtifact} {w : EditorWorld} {before between after : List ArtifactEditorCheckpointRequest}

theorem layout_start (taskRoot : Bool) : Layout E ctx (.start taskRoot) [] [] [] where
  saves := rfl
  snapshot := Or.inl ⟨rfl, rfl⟩
  journal := rfl
  taskRoot _ := rfl
  saveable := List.forall_mem_nil _
  lines := List.forall_mem_nil _

theorem validateStoredContext_folded {requests : List ArtifactEditorCheckpointRequest}
    (h : ∀ request ∈ requests, Saveable a.toEditorContext request) :
    validateStoredContext E a.toEditorContext (a.folded E requests) = .ok () := by
  induction requests using List.reverseRecOn with
  | nil => exact validateStoredContext_eq_ok.mpr ⟨rfl, rfl, rfl, rfl, rfl, rfl, rfl, a.valid⟩
  | append_singleton requests request ih =>
      obtain ⟨hrest, hrequest⟩ := List.forall_mem_append.mp h
      rw [folded_concat]
      exact validateStoredContext_saved (ih hrest) (hrequest request List.mem_cons_self)

theorem readSnapshot_layout (h : Layout E a.toEditorContext w before between after) :
    readSnapshot E a.toEditorContext w.disk.snapshot = .ok (a.folded E (before ++ between), false) := by
  rcases h.snapshot with ⟨hnone, hsnapshot⟩ | ⟨hsnapshot, hlength⟩
  · rw [hsnapshot, hnone]
    rfl
  · have hvalid : validateStoredContext E a.toEditorContext (a.folded E (before ++ between)) = .ok () :=
      validateStoredContext_folded fun request hmem => h.saveable request (h.saves ▸ List.mem_append_left _ hmem)
    obtain ⟨hschema, -, -, -, hdigest, -⟩ := validateStoredContext_eq_ok.mp hvalid
    have hmigrate : migrateStoredCheckpoint (a.baselineDigest E) (a.folded E (before ++ between)) =
        .ok (a.folded E (before ++ between), false) := by
      unfold migrateStoredCheckpoint
      rw [hschema, hdigest, migrateSchema_current]
      rfl
    rw [hsnapshot]
    unfold readSnapshot
    dsimp only
    rw [if_neg (Nat.not_lt.mpr hlength), E.decode_encodeSnapshot]
    simp only [okOr, bind, Except.bind, hmigrate, hvalid]
    rfl

/-- The lines of the journal bring the state of the snapshot up to the last save. -/
theorem replayLines_layout (h : Layout E a.toEditorContext w before between after) :
    replayLines E a.toEditorContext (a.folded E (before ++ between))
        ((journaled E a.toEditorContext (a.folded E before) (between ++ after)).map E.transactions.encode) =
      .ok (a.folded E w.saves, false) := by
  have hsaveable := h.saveable
  have hlines := h.lines
  rw [h.saves] at hsaveable hlines ⊢
  rw [List.append_assoc, journaled_append] at hlines
  have hjournal := (List.forall_mem_append.mp hlines).2
  change ∀ transaction ∈ journaled E a.toEditorContext (a.folded E before) (between ++ after), _ at hjournal
  rw [journaled_append, ← folded_append] at hjournal ⊢
  obtain ⟨hbetween, hafter⟩ := List.forall_mem_append.mp hjournal
  obtain ⟨hknown, hnew⟩ := List.forall_mem_append.mp hsaveable
  rw [List.map_append, replayLines_skip, replayLines_journaled (validateStoredContext_folded hknown) hnew hafter,
    ← folded_append]
  intro transaction hmem
  obtain ⟨revision, current, request, hrequest, rfl, hrevision, hle⟩ := mem_journaled hmem
  refine ⟨replayable_transactionOf hrevision (hknown request (List.mem_append_right _ hrequest)) (hbetween _ hmem), ?_⟩
  rw [folded_append, revision_foldl]
  exact hle

theorem readJournal_layout (h : Layout E a.toEditorContext w before between after) :
    readJournal E a.toEditorContext (a.folded E (before ++ between)) w.disk.journal =
      if w.disk.journalBytes ≤ maxEditorJournalBytes then .ok (a.folded E w.saves, false) else .error .invalidPath := by
  have hreplay := replayLines_layout h
  rw [← E.transactions.fileLines_render, ← h.journal] at hreplay
  unfold EditorDisk.journalBytes
  cases hjournal : w.disk.journal with
  | none =>
      have hbytes : ((none : Option (List UInt8)).getD []).length ≤ maxEditorJournalBytes := Nat.zero_le _
      rw [hjournal] at hreplay
      rw [if_pos hbytes]
      exact hreplay
  | some encoded =>
      have hwhole : WholeLines encoded := by
        have hencoded := h.journal
        rw [hjournal, Option.getD_some] at hencoded
        rw [hencoded]
        exact E.transactions.wholeLines_render _
      rw [hjournal] at hreplay
      unfold readJournal
      dsimp only [Option.getD_some]
      by_cases hbytes : encoded.length ≤ maxEditorJournalBytes
      · rw [if_neg (Nat.not_lt.mpr hbytes), if_neg (not_not.mpr hwhole), if_pos hbytes]
        exact hreplay
      · rw [if_pos (Nat.lt_of_not_le hbytes), if_neg hbytes]

/-- What a load reads. -/
theorem readState_layout (h : Layout E a.toEditorContext w before between after) :
    readState E a.toEditorContext w.disk =
      if w.disk.journalBytes ≤ maxEditorJournalBytes then .ok (a.folded E w.saves, false) else .error .invalidPath := by
  unfold readState
  rw [a.valid]
  by_cases hroot : w.disk.taskRoot = false
  · -- nothing was ever appended
    have hsaves := h.taskRoot hroot
    have hempty : before ++ between ++ after = [] := h.saves ▸ hsaves
    obtain ⟨⟨rfl, rfl⟩, rfl⟩ : (before = [] ∧ between = []) ∧ after = [] := by
      simpa only [List.append_eq_nil_iff] using hempty
    have hbytes : w.disk.journalBytes ≤ maxEditorJournalBytes := by
      unfold EditorDisk.journalBytes
      rw [h.journal]
      exact Nat.zero_le _
    rw [if_pos hbytes, hsaves]
    simp only [hroot, bind, Except.bind, if_true]
    rfl
  · simp only [bind, Except.bind, if_neg hroot, readSnapshot_layout h, readJournal_layout h]
    by_cases hbytes : w.disk.journalBytes ≤ maxEditorJournalBytes
    · rw [if_pos hbytes]
      rfl
    · rw [if_neg hbytes]

theorem load_layout (h : Layout E a.toEditorContext w before between after) :
    load E a.toEditorContext w.disk =
      ⟨[], if w.disk.journalBytes ≤ maxEditorJournalBytes then .ok (checkpointFromStored E (a.folded E w.saves))
        else .error .invalidPath⟩ := by
  unfold load
  rw [readState_layout h]
  by_cases hbytes : w.disk.journalBytes ≤ maxEditorJournalBytes
  · rw [if_pos hbytes, if_pos hbytes]
    rfl
  · rw [if_neg hbytes, if_neg hbytes]

/-- On such a disk only a journal that is too long stands in the way of a load. -/
theorem recovers_iff (h : Layout E a.toEditorContext w before between after) :
    Recovers E a.toEditorContext w ↔ w.disk.journalBytes ≤ maxEditorJournalBytes := by
  unfold Recovers
  rw [load_layout h]
  constructor
  · exact fun hrecovers => hrecovers.2
  · intro hbytes
    rw [if_pos hbytes]
    exact ⟨rfl, hbytes⟩

/-! ## One save -/

theorem checkSave_some {current : ArtifactEditorCheckpoint} {request : ArtifactEditorCheckpointRequest} {revision : Nat}
    (h : checkSave ctx current request = .ok (some revision)) :
    Saveable ctx request ∧ revision = current.revision + 1 := by
  unfold checkSave at h
  split at h
  · cases h
  simp only [bind_eq_ok] at h
  obtain ⟨_, hfiles, _, hstate, h⟩ := h
  refine ⟨⟨hfiles, hstate⟩, ?_⟩
  split at h
  · cases h
  split at h
  · exact (Option.some.inj (Except.ok.inj h)).symm
  · cases h

/-- The request is appended with this revision, on the saves there are. -/
structure Appends (E : EditorEncodings) (ctx : EditorContext) (saves : List ArtifactEditorCheckpointRequest)
    (request : ArtifactEditorCheckpointRequest) (revision : Nat) : Prop where
  base : request.baseSourceRevision = ctx.baseSourceRevision
  check : checkSave ctx (checkpointFromStored E (ctx.folded E saves)) request = .ok (some revision)
  length : (lineOf E ctx revision (ctx.folded E saves).files request).length ≤ maxEditorStateBytes

/-- The writes of a save. -/
inductive SaveWrites (E : EditorEncodings) (ctx : EditorContext) (saves : List ArtifactEditorCheckpointRequest)
    (request : ArtifactEditorCheckpointRequest) : List Write → Prop
  | nothing : SaveWrites E ctx saves request []
  | root : SaveWrites E ctx saves request [.createTaskRoot]
  | append {revision : Nat} (h : Appends E ctx saves request revision) :
      SaveWrites E ctx saves request
        [.createTaskRoot, .append (lineOf E ctx revision (ctx.folded E saves).files request)]
  | compact {revision : Nat} (h : Appends E ctx saves request revision)
      (hsnapshot : (E.encodeSnapshot (storedOf E ctx revision request)).length ≤ maxEditorStateBytes) :
      SaveWrites E ctx saves request
        [.createTaskRoot, .append (lineOf E ctx revision (ctx.folded E saves).files request),
          .replaceSnapshot (E.encodeSnapshot (storedOf E ctx revision request)), .emptyJournal]

/-- A save appends just when its checks pass. -/
theorem saveWrites_layout (h : Layout E a.toEditorContext w before between after)
    (request : ArtifactEditorCheckpointRequest) :
    SaveWrites E a.toEditorContext w.saves request
      (saveArtifactEditorState E a.toEditorContext w.disk request).writes := by
  unfold saveArtifactEditorState
  split
  · exact .nothing
  rename_i hbase
  rw [not_not] at hbase
  have hctx : { a.toEditorContext with baseSourceRevision := request.baseSourceRevision } = a.toEditorContext := by
    rw [hbase]
  unfold save
  rw [hctx]
  dsimp only
  rw [load_layout h]
  split
  · exact .nothing
  rename_i current hcurrent
  split at hcurrent
  swap
  · exact nomatch hcurrent
  obtain rfl := Except.ok.inj hcurrent
  split
  · exact .nothing
  · exact .nothing
  rename_i revision hcheck
  show SaveWrites E a.toEditorContext w.saves request (commit E w.disk _ _).writes
  unfold commit
  split
  · exact .root
  rename_i hlength
  have happends : Appends E a.toEditorContext w.saves request revision := ⟨hbase, hcheck, Nat.le_of_not_lt hlength⟩
  split
  · split
    · exact .append happends
    · rename_i hsnapshot
      exact .compact happends (Nat.le_of_not_lt hsnapshot)
  · exact .append happends

/-! ## One write -/

theorem Layout.createTaskRoot (h : Layout E ctx w before between after) :
    Layout E ctx ⟨w.disk.apply .createTaskRoot, w.saves⟩ before between after where
  saves := h.saves
  snapshot := h.snapshot
  journal := h.journal
  taskRoot htrue := nomatch htrue
  saveable := h.saveable
  lines := h.lines

theorem Layout.append {request : ArtifactEditorCheckpointRequest} {revision : Nat}
    (h : Layout E a.toEditorContext w before between after) (hroot : w.disk.taskRoot = true)
    (happends : Appends E a.toEditorContext w.saves request revision) :
    Layout E a.toEditorContext
      ⟨w.disk.apply (.append (lineOf E a.toEditorContext revision (a.folded E w.saves).files request)),
        w.saves ++ [request]⟩ before between (after ++ [request]) := by
  obtain ⟨hsaveable, hrevision⟩ := checkSave_some happends.check
  change revision = (a.folded E w.saves).revision + 1 at hrevision
  subst hrevision
  have hnew : journaled E a.toEditorContext (a.folded E w.saves) [request] =
      [transactionOf E a.toEditorContext ((a.folded E w.saves).revision + 1) (a.folded E w.saves).files request] := rfl
  constructor
  · show w.saves ++ [request] = _
    rw [h.saves]
    simp only [List.append_assoc]
  · exact h.snapshot
  · show (w.disk.journal.getD [] ++ (_ ++ [newline])) = _
    have hsaves : a.folded E w.saves =
        (between ++ after).foldl StoredEditorCheckpoint.saved (a.folded E before) := by
      rw [← folded_append, h.saves, List.append_assoc]
    rw [h.journal, ← List.append_assoc between, journaled_append _ (between ++ after), ← hsaves, hnew, LineCodec.render_append,
      LineCodec.render_singleton]
    rfl
  · intro hfalse
    exact absurd hroot (by rw [show w.disk.taskRoot = false from hfalse]; exact Bool.false_ne_true)
  · exact List.forall_mem_append.mpr ⟨h.saveable, List.forall_mem_singleton.mpr hsaveable⟩
  · show ∀ transaction ∈ journaled E a.toEditorContext (a.baseline E) (w.saves ++ [request]), _
    rw [journaled_append]
    refine List.forall_mem_append.mpr ⟨h.lines, ?_⟩
    show ∀ transaction ∈ journaled E a.toEditorContext (a.folded E w.saves) [request], _
    rw [hnew]
    exact List.forall_mem_singleton.mpr happends.length

theorem Layout.replaceSnapshot (h : Layout E ctx w before between after)
    (hlength : (E.encodeSnapshot (ctx.folded E w.saves)).length ≤ maxEditorStateBytes) :
    Layout E ctx ⟨w.disk.apply (.replaceSnapshot (E.encodeSnapshot (ctx.folded E w.saves))), w.saves⟩ before
      (between ++ after) [] := by
  have hsaves : before ++ (between ++ after) = w.saves := by rw [h.saves, List.append_assoc]
  constructor
  · show w.saves = _
    rw [hsaves, List.append_nil]
  · right
    rw [hsaves]
    exact ⟨rfl, hlength⟩
  · rw [List.append_nil]
    exact h.journal
  · exact h.taskRoot
  · exact h.saveable
  · exact h.lines

theorem Layout.emptyJournal (h : Layout E ctx w before between []) :
    Layout E ctx ⟨w.disk.apply .emptyJournal, w.saves⟩ (before ++ between) [] [] := by
  constructor
  · rw [List.append_nil]
    exact h.saves
  · rw [List.append_nil]
    exact h.snapshot
  · rfl
  · exact h.taskRoot
  · exact h.saveable
  · exact h.lines

/-! ## Runs -/

theorem executed_eq_take (call : SaveCall) (disk : EditorDisk) : ∃ count,
    call.executed E ctx disk = (saveArtifactEditorState E ctx disk call.request).writes.take count := by
  unfold SaveCall.executed
  cases call.cut with
  | none => exact ⟨_, (List.take_length).symm⟩
  | some count => exact ⟨count, rfl⟩

/-- What a save leaves on disk, wherever it is cut: the layout, and a journal that is as long as before, or longer by
the line, or empty. -/
structure Stepped (E : EditorEncodings) (ctx : EditorContext) (w : EditorWorld)
    (request : ArtifactEditorCheckpointRequest) (w' : EditorWorld) : Prop where
  layout : ∃ before between after, Layout E ctx w' before between after
  journal : w'.disk.journalBytes ≤ w.disk.journalBytes ∨ ∃ revision, Appends E ctx w.saves request revision ∧
    w'.disk.journalBytes =
      w.disk.journalBytes + (lineOf E ctx revision (ctx.folded E w.saves).files request).length + 1

theorem journalBytes_append (disk : EditorDisk) (line : List UInt8) :
    (disk.apply (.append line)).journalBytes = disk.journalBytes + line.length + 1 := by
  show (disk.journal.getD [] ++ (line ++ [newline])).length = _
  rw [List.length_append, List.length_append, List.length_singleton, ← Nat.add_assoc]
  rfl

theorem stepped_step (h : Layout E a.toEditorContext w before between after) (call : SaveCall) :
    Stepped E a.toEditorContext w call.request (w.step E a.toEditorContext call) := by
  have hroot := h.createTaskRoot
  obtain ⟨count, hexecuted⟩ := @executed_eq_take E a.toEditorContext call w.disk
  have hwrites := saveWrites_layout h call.request
  unfold EditorWorld.step
  rw [hexecuted]
  generalize (saveArtifactEditorState E a.toEditorContext w.disk call.request).writes = writes at hwrites
  have hunchanged : Stepped E a.toEditorContext w call.request ⟨w.disk, w.saves⟩ :=
    ⟨⟨_, _, _, h⟩, .inl le_rfl⟩
  have hcreated : Stepped E a.toEditorContext w call.request ⟨w.disk.apply .createTaskRoot, w.saves⟩ :=
    ⟨⟨_, _, _, hroot⟩, .inl le_rfl⟩
  cases hwrites with
  | nothing => rw [List.take_nil]; exact hunchanged
  | root =>
      match count with
      | 0 => exact hunchanged
      | count + 1 => rw [List.take_succ_cons, List.take_nil]; exact hcreated
  | append happends =>
      match count with
      | 0 => exact hunchanged
      | 1 => exact hcreated
      | count + 2 =>
          rw [List.take_succ_cons, List.take_succ_cons, List.take_nil]
          exact ⟨⟨_, _, _, hroot.append rfl happends⟩, .inr ⟨_, happends, journalBytes_append _ _⟩⟩
  | @compact revision happends hsnapshot =>
      -- what the snapshot holds is the fold of the saves with this one
      have hstored : storedOf E a.toEditorContext revision call.request = a.folded E (w.saves ++ [call.request]) := by
        have hrevision := (checkSave_some happends.check).2
        subst hrevision
        rw [folded_concat]
        exact storedOf_eq_saved (validateStoredContext_folded h.saveable) call.request
      rw [hstored] at hsnapshot ⊢
      have happended := hroot.append rfl happends
      have hreplaced := happended.replaceSnapshot hsnapshot
      have hjournal := journalBytes_append (w.disk.apply .createTaskRoot)
        (lineOf E a.toEditorContext revision (a.folded E w.saves).files call.request)
      match count with
      | 0 => exact hunchanged
      | 1 => exact hcreated
      | 2 => exact ⟨⟨_, _, _, happended⟩, .inr ⟨_, happends, hjournal⟩⟩
      | 3 => exact ⟨⟨_, _, _, hreplaced⟩, .inr ⟨_, happends, hjournal⟩⟩
      | count + 4 =>
          rw [List.take_succ_cons, List.take_succ_cons, List.take_succ_cons, List.take_succ_cons, List.take_nil]
          exact ⟨⟨_, _, _, hreplaced.emptyJournal⟩, .inl (Nat.zero_le _)⟩

theorem run_concat (taskRoot : Bool) (calls : List SaveCall) (call : SaveCall) :
    EditorWorld.run E ctx taskRoot (calls ++ [call]) = (EditorWorld.run E ctx taskRoot calls).step E ctx call :=
  List.foldl_append

theorem layout_run (taskRoot : Bool) (calls : List SaveCall) :
    ∃ before between after, Layout E a.toEditorContext (.run E a.toEditorContext taskRoot calls) before between after := by
  induction calls using List.reverseRecOn with
  | nil => exact ⟨[], [], [], layout_start taskRoot⟩
  | append_singleton calls call ih =>
      obtain ⟨_, _, _, hlayout⟩ := ih
      rw [run_concat]
      exact (stepped_step hlayout call).layout

/-- A request that is saved puts its line into the journal before anything else. -/
theorem take_two_writes (h : Layout E a.toEditorContext w before between after)
    (hbytes : w.disk.journalBytes ≤ maxEditorJournalBytes) {request : ArtifactEditorCheckpointRequest} {revision : Nat}
    (happends : Appends E a.toEditorContext w.saves request revision) :
    (saveArtifactEditorState E a.toEditorContext w.disk request).writes.take 2 =
      [.createTaskRoot, .append (lineOf E a.toEditorContext revision (a.folded E w.saves).files request)] := by
  have hctx : { a.toEditorContext with baseSourceRevision := request.baseSourceRevision } = a.toEditorContext := by
    rw [happends.base]
  unfold saveArtifactEditorState
  rw [if_neg (not_not.mpr happends.base)]
  unfold save
  rw [hctx]
  dsimp only
  rw [load_layout h, if_pos hbytes]
  dsimp only
  rw [happends.check]
  show (commit E w.disk (lineOf E a.toEditorContext revision (a.folded E w.saves).files request) _).writes.take 2 = _
  unfold commit
  rw [if_neg (Nat.not_lt.mpr happends.length)]
  split
  · split <;> rfl
  · rfl

/-- A save may be cut anywhere just when its line fits the journal. -/
theorem recovers_step_iff (h : Layout E a.toEditorContext w before between after)
    (hbytes : w.disk.journalBytes ≤ maxEditorJournalBytes) (request : ArtifactEditorCheckpointRequest) :
    (∀ cut, Recovers E a.toEditorContext (w.step E a.toEditorContext ⟨request, cut⟩)) ↔
      AppendFits E a.toEditorContext w request := by
  constructor
  · intro hrecovers revision hbase hcheck hlength
    have hexecuted : (⟨request, some 2⟩ : SaveCall).executed E a.toEditorContext w.disk = _ :=
      take_two_writes h hbytes ⟨hbase, hcheck, hlength⟩
    have hcall := hrecovers (some 2)
    simp only [EditorWorld.step, hexecuted] at hcall
    rw [← journalBytes_append]
    exact hcall.2
  · intro hfits cut
    obtain ⟨⟨_, _, _, hlayout⟩, hjournal⟩ := stepped_step h ⟨request, cut⟩
    rw [recovers_iff hlayout]
    rcases hjournal with hshorter | ⟨revision, happends, hlonger⟩
    · exact hshorter.trans hbytes
    · rw [hlonger]
      exact hfits revision happends.base happends.check happends.length

/-- **Main result.** Wherever the saves of a run are cut, a load afterwards is the fold of what was appended, just when
every line fits the journal that it is appended to. -/
theorem editorStore_history (E : EditorEncodings) (a : PublishedArtifact) (taskRoot : Bool) (calls : List SaveCall) :
    (∀ before call after, calls = before ++ call :: after → ∀ cut,
      Recovers E a.toEditorContext (.run E a.toEditorContext taskRoot (before ++ [⟨call.request, cut⟩]))) ↔
    ∀ before call after, calls = before ++ call :: after →
      AppendFits E a.toEditorContext (.run E a.toEditorContext taskRoot before) call.request := by
  constructor
  · intro hrecovers before call after hcalls
    obtain ⟨_, _, _, hlayout⟩ := layout_run (E := E) (a := a) taskRoot before
    -- the run up to here ends with a call of its own, or has not begun
    have hbytes : (EditorWorld.run E a.toEditorContext taskRoot before).disk.journalBytes ≤ maxEditorJournalBytes := by
      rcases List.eq_nil_or_concat before with rfl | ⟨init, last, rfl⟩
      · exact Nat.zero_le _
      · rw [List.concat_eq_append] at hcalls ⊢
        rw [List.append_assoc] at hcalls
        exact (hrecovers init last (call :: after) hcalls last.cut).2
    refine (recovers_step_iff hlayout hbytes call.request).mp fun cut => ?_
    rw [← run_concat]
    exact hrecovers before call after hcalls cut
  · intro hfits before call after hcalls cut
    have hbytes (front back : List SaveCall) (hfront : calls = front ++ back) :
        (EditorWorld.run E a.toEditorContext taskRoot front).disk.journalBytes ≤ maxEditorJournalBytes := by
      induction front using List.reverseRecOn generalizing back with
      | nil => exact Nat.zero_le _
      | append_singleton front last ih =>
          rw [List.append_assoc, List.singleton_append] at hfront
          obtain ⟨_, _, _, hlayout⟩ := layout_run (E := E) (a := a) taskRoot front
          have hall := (recovers_step_iff hlayout (ih _ hfront) last.request).mpr (hfits front last back hfront)
          rw [run_concat]
          exact (hall last.cut).2
    obtain ⟨_, _, _, hlayout⟩ := layout_run (E := E) (a := a) taskRoot before
    rw [run_concat]
    exact (recovers_step_iff hlayout (hbytes before _ hcalls) call.request).mpr (hfits before call after hcalls) cut

/-! ## Saves that are interrupted again and again -/

/-- A million quotes and `n` more; JSON writes each of them as two bytes. -/
@[irreducible] def sampleDraft (n : Nat) : String := String.ofList (List.replicate (1000000 + n) '"')

theorem utf8ByteSize_sampleDraft (n : Nat) : (sampleDraft n).utf8ByteSize = 1000000 + n := by
  unfold sampleDraft
  rw [utf8ByteSize_replicate]
  exact Nat.mul_one _

theorem sampleDraft_ne (n : Nat) : sampleDraft n ≠ sampleDraft (n + 1) := by
  intro h
  have hsize := congrArg String.utf8ByteSize h
  rw [utf8ByteSize_sampleDraft, utf8ByteSize_sampleDraft] at hsize
  omega

def sampleFiles (n : Nat) : Files := .singleton "/App.tsx" (sampleDraft n)

theorem validateEditorState_sample {n : Nat} (h : n ≤ 40000) :
    validateEditorState "/App.tsx" (sampleFiles n) "/App.tsx" .empty = .ok () := by
  have hpath : validVirtualPath "/App.tsx" = true := by decide
  have hbytes : sourceBytes (sampleFiles n) = 8 + (1000000 + n) := by
    show "/App.tsx".utf8ByteSize + (sampleDraft n).utf8ByteSize + 0 = _
    rw [utf8ByteSize_sampleDraft]
    rfl
  unfold validateEditorState
  rw [if_neg, if_neg]
  · rw [hbytes]
    simp [maxEditorSourceBytes, OrderedMap.values, OrderedMap.empty]
    omega
  · simp [sampleFiles, OrderedMap.singleton, OrderedMap.size, OrderedMap.keys, OrderedMap.empty, hpath, maxEditorFiles,
      maxEditorSelections]

def sampleArtifact : PublishedArtifact where
  taskId := ⟨1⟩
  artifactId := ⟨2⟩
  baseSourceRevision := 3
  entrypoint := "/App.tsx"
  baselineFiles := sampleFiles 0
  valid := validateEditorState_sample (Nat.zero_le _)

/-- The `n`th save adds a quote. -/
def sampleRequest (n : Nat) : ArtifactEditorCheckpointRequest where
  expectedRevision := n
  baseSourceRevision := 3
  files := sampleFiles (n + 1)
  activePath := "/App.tsx"
  view := .code
  selections := .empty

def sampleDigest : String := String.ofList (List.replicate 64 'a')

def sampleTransaction (n : Nat) : EditorTransaction where
  schemaVersion := editorStateSchemaVersion
  taskId := ⟨1⟩
  artifactId := ⟨2⟩
  baseSourceRevision := 3
  baselineDigest := some sampleDigest
  revision := n + 1
  changedFiles := changedFiles (sampleFiles n) (sampleFiles (n + 1))
  activePath := "/App.tsx"
  view := .code
  selections := .empty

/-- As many other transactions as the bytes of a line. -/
@[irreducible] def fillerTransactions : List EditorTransaction :=
  List.replicate 2000350 { sampleTransaction 0 with revision := 0 }

/-- The lines of these transactions are as long as JSON makes them, to within a few bytes. -/
noncomputable def sampleEncodings : EditorEncodings where
  transactions := .short (fillerTransactions ++ (List.range 6).map sampleTransaction)
  encodeSnapshot := (LineCodec.short []).encode
  decodeSnapshot := (LineCodec.short []).decode
  decode_encodeSnapshot := LineCodec.decode_encode_short
  baselineBytes _ _ _ := []
  stateBytes _ := []
  sha256 _ := sampleDigest

theorem length_fillerTransactions : fillerTransactions.length = 2000350 := by
  unfold fillerTransactions
  exact List.length_replicate

theorem sampleTransaction_notMem (n : Nat) : sampleTransaction n ∉ fillerTransactions := by
  unfold fillerTransactions
  intro hmem
  have hrevision : n + 1 = 0 := congrArg EditorTransaction.revision (List.eq_of_mem_replicate hmem)
  exact absurd hrevision (Nat.succ_ne_zero n)

theorem length_sampleLine {n : Nat} (h : n < 6) :
    2000350 < (sampleEncodings.transactions.encode (sampleTransaction n)).length ∧
      (sampleEncodings.transactions.encode (sampleTransaction n)).length ≤ 2000356 := by
  have hmem : sampleTransaction n ∈ (List.range 6).map sampleTransaction :=
    List.mem_map_of_mem (List.mem_range.mpr h)
  have hlength : (fillerTransactions ++ (List.range 6).map sampleTransaction).length = 2000356 := by
    rw [List.length_append, length_fillerTransactions, List.length_map, List.length_range]
  constructor
  · exact length_fillerTransactions.symm.trans_lt (LineCodec.lt_length_short_encode (sampleTransaction_notMem n) hmem)
  · exact (LineCodec.length_short_encode_le _ (List.mem_append_right fillerTransactions hmem)).trans_eq hlength

def sampleSaves (n : Nat) : List ArtifactEditorCheckpointRequest := (List.range n).map sampleRequest

/-- Each save is cut after its transaction was appended. -/
def sampleCalls (n : Nat) : List SaveCall := (sampleSaves n).map fun request => ⟨request, some 2⟩

theorem sampleSaves_succ (n : Nat) : sampleSaves (n + 1) = sampleSaves n ++ [sampleRequest n] := by
  unfold sampleSaves
  rw [List.range_succ, List.map_append, List.map_singleton]

theorem length_sampleSaves (n : Nat) : (sampleSaves n).length = n := by
  unfold sampleSaves
  rw [List.length_map, List.length_range]

/-- The state after `n` saves. -/
theorem folded_sample (E : EditorEncodings) (n : Nat) :
    (sampleArtifact.folded E (sampleSaves n)).revision = n ∧
      (sampleArtifact.folded E (sampleSaves n)).files = sampleFiles n := by
  constructor
  · refine (revision_foldl _ _).trans ?_
    rw [length_sampleSaves]
    exact Nat.zero_add n
  · cases n with
    | zero => rfl
    | succ n =>
        rw [sampleSaves_succ, folded_concat]
        rfl

theorem checkSave_sample {current : ArtifactEditorCheckpoint} {n : Nat} (h : n < 6) (hrevision : current.revision = n)
    (hfiles : current.files = sampleFiles n) :
    checkSave sampleArtifact.toEditorContext current (sampleRequest n) = .ok (some (n + 1)) := by
  have hstate : validateEditorState sampleArtifact.entrypoint (sampleRequest n).files (sampleRequest n).activePath
      (sampleRequest n).selections = .ok () := validateEditorState_sample (by omega)
  have hset : validateFixedFileSet sampleArtifact.baselineFiles (sampleRequest n).files = .ok () :=
    validateFixedFileSet_eq_ok.mpr ((OrderedMap.keys_singleton _ _).trans (OrderedMap.keys_singleton _ _).symm)
  have hexpected : (sampleRequest n).expectedRevision = current.revision := hrevision.symm
  have hchanged : ¬(current.files = (sampleRequest n).files ∧ current.activePath = (sampleRequest n).activePath ∧
      current.view = (sampleRequest n).view ∧ current.selections = (sampleRequest n).selections) := by
    rintro ⟨hsame, -⟩
    have hentries : (sampleFiles n).entries = (sampleFiles (n + 1)).entries := by rw [← hfiles, hsame]; rfl
    exact sampleDraft_ne n (Prod.mk.inj (List.cons.inj hentries).1).2
  unfold checkSave
  rw [if_neg (not_not.mpr hexpected), hset]
  simp only [hstate, bind, Except.bind]
  rw [if_neg hchanged, hrevision, if_pos (by omega)]
  rfl

theorem appends_sample {n : Nat} (h : n < 6) :
    Appends sampleEncodings sampleArtifact.toEditorContext (sampleSaves n) (sampleRequest n) (n + 1) := by
  obtain ⟨hrevision, hfiles⟩ := folded_sample sampleEncodings n
  refine ⟨rfl, checkSave_sample h hrevision hfiles, ?_⟩
  rw [hfiles]
  exact (length_sampleLine h).2.trans (by decide)

/-- Each of the saves makes the journal longer, until a load refuses it. -/
theorem run_sample {n : Nat} (h : n ≤ 6) :
    (EditorWorld.run sampleEncodings sampleArtifact.toEditorContext false (sampleCalls n)).saves = sampleSaves n ∧
      2000352 * n ≤
        (EditorWorld.run sampleEncodings sampleArtifact.toEditorContext false (sampleCalls n)).disk.journalBytes ∧
      (EditorWorld.run sampleEncodings sampleArtifact.toEditorContext false (sampleCalls n)).disk.journalBytes ≤
        2000357 * n := by
  induction n with
  | zero => exact ⟨rfl, le_rfl, le_rfl⟩
  | succ n ih =>
      obtain ⟨hsaves, hlower, hupper⟩ := ih (Nat.le_of_succ_le h)
      obtain ⟨_, _, _, hlayout⟩ := layout_run (E := sampleEncodings) (a := sampleArtifact) false (sampleCalls n)
      have hcalls : sampleCalls (n + 1) = sampleCalls n ++ [⟨sampleRequest n, some 2⟩] := by
        unfold sampleCalls
        rw [sampleSaves_succ, List.map_append, List.map_singleton]
      have hbytes : (EditorWorld.run sampleEncodings sampleArtifact.toEditorContext false
          (sampleCalls n)).disk.journalBytes ≤ maxEditorJournalBytes := by
        unfold maxEditorJournalBytes
        omega
      have happends := appends_sample (n := n) h
      rw [← hsaves] at happends
      have hfiles := (folded_sample sampleEncodings n).2
      have hexecuted : (⟨sampleRequest n, some 2⟩ : SaveCall).executed sampleEncodings sampleArtifact.toEditorContext
          (EditorWorld.run sampleEncodings sampleArtifact.toEditorContext false (sampleCalls n)).disk =
            [.createTaskRoot, .append (sampleEncodings.transactions.encode (sampleTransaction n))] := by
        have htake := take_two_writes hlayout hbytes happends
        rw [hsaves, hfiles] at htake
        exact htake
      obtain ⟨hshort, hlong⟩ := length_sampleLine (n := n) h
      rw [hcalls, run_concat]
      generalize EditorWorld.run sampleEncodings sampleArtifact.toEditorContext false (sampleCalls n) = w at *
      simp only [EditorWorld.step, hexecuted]
      have hjournal : (w.disk.applyAll
          [.createTaskRoot, .append (sampleEncodings.transactions.encode (sampleTransaction n))]).journalBytes =
            w.disk.journalBytes + (sampleEncodings.transactions.encode (sampleTransaction n)).length + 1 :=
        journalBytes_append (w.disk.apply .createTaskRoot) _
      refine ⟨?_, by omega, by omega⟩
      rw [hsaves, sampleSaves_succ]
      rfl

/-- Six saves, the last four of them cut before the snapshot is replaced: no load succeeds any more. -/
theorem interrupted_saves_end_loading :
    ¬Recovers sampleEncodings sampleArtifact.toEditorContext
      (.run sampleEncodings sampleArtifact.toEditorContext false (sampleCalls 6)) := by
  intro hrecovers
  have hlower := (run_sample le_rfl).2.1
  have hbound : maxEditorJournalBytes = 10485760 := rfl
  have hupper := hrecovers.2
  omega

end HyperTerm.Daemon.EditorStore
