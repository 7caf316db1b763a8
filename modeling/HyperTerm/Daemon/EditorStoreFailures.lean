import HyperTerm.Daemon.EditorStoreHistory

/-!
# Editor saves that fail

A save checks the size of its line before it appends the line, but the size of a new snapshot only after. `Readable` says
what a disk has after any load that succeeds; from it follows what a load returns after each way in which a save fails.

* `load_again` : a load returns what the load before it returned, whether that one migrated the files or not;
* `readState_append` : the line of a save is what a load reads last;
* `save_failure_unchanged_iff` : a failed save leaves what a load returns, unless a compaction was refused.
-/

namespace HyperTerm.Daemon.EditorStore
open HyperTerm.Protocol HyperTerm.Lib

variable {E : EditorEncodings} {ctx : EditorContext} {disk : EditorDisk} {state : StoredEditorCheckpoint}

/-- The files of an artifact are in the directory of its task. -/
def EditorDisk.WellFormed (disk : EditorDisk) : Prop :=
  disk.taskRoot = false → disk.snapshot = none ∧ disk.journal = none

/-- The artifact at the base revision that a request names. -/
def EditorContext.forRequest (ctx : EditorContext) (request : ArtifactEditorCheckpointRequest) : EditorContext :=
  { ctx with baseSourceRevision := request.baseSourceRevision }

/-- The journal is compacted at this revision, or with this line it is long enough to be. -/
def CompactionDue (disk : EditorDisk) (revision : Nat) (line : List UInt8) : Prop :=
  revision % compactEveryRevisions = 0 ∨
    maxEditorJournalBytes / 2 < (disk.applyAll [.createTaskRoot, .append line]).journalBytes

/-- The request passes every check and its line fits, the journal is due to be compacted, and the new snapshot is too
large. -/
def CompactionRefused (E : EditorEncodings) (ctx : EditorContext) (disk : EditorDisk)
    (request : ArtifactEditorCheckpointRequest) : Prop :=
  ∃ current revision, (load E ctx disk).result = .ok current ∧ checkSave ctx current request = .ok (some revision) ∧
    (lineOf E ctx revision current.files request).length ≤ maxEditorStateBytes ∧
    CompactionDue (disk.applyAll (load E ctx disk).writes) revision (lineOf E ctx revision current.files request) ∧
    maxEditorStateBytes < (E.encodeSnapshot (storedOf E ctx revision request)).length

/-! ## What a load reads is valid -/

theorem valid_baseline (h : validateEditorState ctx.entrypoint ctx.baselineFiles ctx.entrypoint .empty = .ok ()) :
    validateStoredContext E ctx (ctx.baseline E) = .ok () :=
  validateStoredContext_eq_ok.mpr ⟨rfl, rfl, rfl, rfl, rfl, rfl, rfl, h⟩

theorem valid_readSnapshot {snapshot : Option (List UInt8)} {migrated : Bool}
    (hbaseline : validateEditorState ctx.entrypoint ctx.baselineFiles ctx.entrypoint .empty = .ok ())
    (h : readSnapshot E ctx snapshot = .ok (state, migrated)) : validateStoredContext E ctx state = .ok () := by
  unfold readSnapshot at h
  cases snapshot with
  | none =>
      obtain ⟨rfl, -⟩ := Prod.mk.inj (Except.ok.inj h)
      exact valid_baseline hbaseline
  | some encoded =>
      dsimp only at h
      split at h
      · cases h
      simp only [bind_eq_ok] at h
      obtain ⟨_, -, ⟨_, _⟩, -, ⟨⟩, hvalid, h⟩ := h
      obtain ⟨rfl, -⟩ := Prod.mk.inj (Except.ok.inj h)
      exact hvalid

theorem valid_applyTransaction {transaction : EditorTransaction} {next : StoredEditorCheckpoint}
    (h : applyTransaction E ctx state transaction = .ok next) : validateStoredContext E ctx next = .ok () := by
  unfold applyTransaction at h
  simp only [bind_eq_ok] at h
  obtain ⟨_, -, ⟨⟩, hvalid, h⟩ := h
  obtain rfl := Except.ok.inj h
  exact hvalid

theorem valid_replayLine {line : List UInt8} {next : StoredEditorCheckpoint} {migrated : Bool}
    (hstate : validateStoredContext E ctx state = .ok ()) (h : replayLine E ctx state line = .ok (next, migrated)) :
    validateStoredContext E ctx next = .ok () := by
  unfold replayLine at h
  split at h
  · cases h
  simp only [bind_eq_ok] at h
  obtain ⟨_, -, _, -, ⟨⟩, -, h⟩ := h
  split at h
  · obtain ⟨rfl, -⟩ := Prod.mk.inj (Except.ok.inj h)
    exact hstate
  split at h
  · cases h
  obtain ⟨_, happlied, h⟩ := bind_eq_ok.mp h
  obtain ⟨rfl, -⟩ := Prod.mk.inj (Except.ok.inj h)
  exact valid_applyTransaction happlied

theorem valid_replayLines {lines : List (List UInt8)} {next : StoredEditorCheckpoint} {migrated : Bool}
    (hstate : validateStoredContext E ctx state = .ok ()) (h : replayLines E ctx state lines = .ok (next, migrated)) :
    validateStoredContext E ctx next = .ok () := by
  induction lines generalizing state migrated with
  | nil =>
      obtain ⟨rfl, -⟩ := Prod.mk.inj (Except.ok.inj h)
      exact hstate
  | cons line lines ih =>
      rw [replayLines] at h
      obtain ⟨replayed, hline, h⟩ := bind_eq_ok.mp h
      obtain ⟨rest, hlines, h⟩ := bind_eq_ok.mp h
      obtain ⟨rfl, -⟩ := Prod.mk.inj (Except.ok.inj h)
      exact ih (valid_replayLine hstate hline) hlines

theorem valid_readJournal {journal : Option (List UInt8)} {next : StoredEditorCheckpoint} {migrated : Bool}
    (hstate : validateStoredContext E ctx state = .ok ()) (h : readJournal E ctx state journal = .ok (next, migrated)) :
    validateStoredContext E ctx next = .ok () := by
  unfold readJournal at h
  cases journal with
  | none =>
      obtain ⟨rfl, -⟩ := Prod.mk.inj (Except.ok.inj h)
      exact hstate
  | some encoded =>
      dsimp only at h
      split at h
      · cases h
      split at h
      · cases h
      exact valid_replayLines hstate h

/-- A load that succeeds has checked the baseline, and what it returns. -/
theorem valid_readState {migrated : Bool} (h : readState E ctx disk = .ok (state, migrated)) :
    validateEditorState ctx.entrypoint ctx.baselineFiles ctx.entrypoint .empty = .ok () ∧
      validateStoredContext E ctx state = .ok () := by
  unfold readState at h
  obtain ⟨⟨⟩, hbaseline, h⟩ := bind_eq_ok.mp h
  refine ⟨hbaseline, ?_⟩
  split at h
  · obtain ⟨rfl, -⟩ := Prod.mk.inj (Except.ok.inj h)
    exact valid_baseline hbaseline
  · simp only [bind_eq_ok] at h
    obtain ⟨⟨_, _⟩, hsnapshot, ⟨_, _⟩, hjournal, h⟩ := h
    obtain ⟨rfl, -⟩ := Prod.mk.inj (Except.ok.inj h)
    exact valid_readJournal (valid_readSnapshot hbaseline hsnapshot) hjournal

/-! ## Loading again -/

/-- A load from the disk returns the state, and migrates nothing. -/
structure Readable (E : EditorEncodings) (ctx : EditorContext) (disk : EditorDisk) (state : StoredEditorCheckpoint) :
    Prop where
  wellFormed : disk.WellFormed
  read : readState E ctx disk = .ok (state, false)

theorem Readable.baseline (h : Readable E ctx disk state) :
    validateEditorState ctx.entrypoint ctx.baselineFiles ctx.entrypoint .empty = .ok () := (valid_readState h.read).1

theorem Readable.valid (h : Readable E ctx disk state) : validateStoredContext E ctx state = .ok () :=
  (valid_readState h.read).2

theorem Readable.load (h : Readable E ctx disk state) : load E ctx disk = ⟨[], .ok (checkpointFromStored E state)⟩ := by
  unfold EditorStore.load
  rw [h.read]
  rfl

theorem readSnapshot_encodeSnapshot (hvalid : validateStoredContext E ctx state = .ok ())
    (hlength : (E.encodeSnapshot state).length ≤ maxEditorStateBytes) :
    readSnapshot E ctx (some (E.encodeSnapshot state)) = .ok (state, false) := by
  obtain ⟨hschema, -, -, -, hdigest, -⟩ := validateStoredContext_eq_ok.mp hvalid
  have hmigrate : migrateStoredCheckpoint (ctx.baselineDigest E) state = .ok (state, false) := by
    unfold migrateStoredCheckpoint
    rw [hschema, hdigest, migrateSchema_current]
    rfl
  unfold readSnapshot
  dsimp only
  rw [if_neg (Nat.not_lt.mpr hlength), E.decode_encodeSnapshot]
  simp only [okOr, bind, Except.bind, hmigrate, hvalid]
  rfl

/-- What a migration leaves. -/
theorem readable_migrated (hroot : disk.taskRoot = true)
    (hbaseline : validateEditorState ctx.entrypoint ctx.baselineFiles ctx.entrypoint .empty = .ok ())
    (hvalid : validateStoredContext E ctx state = .ok ())
    (hlength : (E.encodeSnapshot state).length ≤ maxEditorStateBytes) :
    Readable E ctx (disk.applyAll [.replaceSnapshot (E.encodeSnapshot state), .emptyJournal]) state := by
  refine ⟨fun hfalse => absurd (hroot.symm.trans hfalse) Bool.noConfusion, ?_⟩
  have hempty : readJournal E ctx state (some []) = .ok (state, false) := by
    unfold readJournal
    dsimp only
    rw [if_neg (show ¬maxEditorJournalBytes < ([] : List UInt8).length from Nat.not_lt_zero _),
      if_neg (not_not.mpr (show WholeLines [] from Or.inl rfl))]
    rfl
  unfold readState
  show (_ >>= fun _ => if disk.taskRoot = false then _ else
    readSnapshot E ctx (some (E.encodeSnapshot state)) >>= fun snapshot =>
      readJournal E ctx snapshot.1 (some []) >>= fun replayed => _) = _
  rw [hbaseline, hroot, readSnapshot_encodeSnapshot hvalid hlength]
  simp only [bind, Except.bind, hempty]
  rfl

/-- The files are there only with the directory, so a load without it migrates nothing. -/
theorem taskRoot_of_migrated (h : readState E ctx disk = .ok (state, true)) : disk.taskRoot = true := by
  unfold readState at h
  obtain ⟨_, -, h⟩ := bind_eq_ok.mp h
  split at h
  · cases h
  · rename_i hroot
    exact Bool.eq_true_of_not_eq_false hroot

/-- What a load returns, and what it leaves. -/
theorem load_cases (hdisk : disk.WellFormed) :
    (∃ error, load E ctx disk = ⟨[], .error error⟩) ∨
      ∃ state, (load E ctx disk).result = .ok (checkpointFromStored E state) ∧
        Readable E ctx (disk.applyAll (load E ctx disk).writes) state := by
  cases hread : readState E ctx disk with
  | error error =>
      left
      refine ⟨error, ?_⟩
      unfold load
      rw [hread]
  | ok read =>
      obtain ⟨state, migrated⟩ := read
      cases migrated with
      | false =>
          have hreadable : Readable E ctx disk state := ⟨hdisk, hread⟩
          right
          refine ⟨state, ?_, ?_⟩
          · rw [hreadable.load]
          · rw [hreadable.load]
            exact hreadable
      | true =>
          obtain ⟨hbaseline, hvalid⟩ := valid_readState hread
          unfold load
          rw [hread]
          dsimp only
          rw [if_pos rfl]
          by_cases hlength : maxEditorStateBytes < (E.encodeSnapshot state).length
          · rw [if_pos hlength]
            exact Or.inl ⟨_, rfl⟩
          · rw [if_neg hlength]
            exact Or.inr ⟨state, rfl,
              readable_migrated (taskRoot_of_migrated hread) hbaseline hvalid (Nat.le_of_not_lt hlength)⟩

/-- **Main result.** A load returns what the load before it returned, and writes nothing more: what it has migrated is
read back as it was. -/
theorem load_again (hdisk : disk.WellFormed) :
    load E ctx (disk.applyAll (load E ctx disk).writes) = ⟨[], (load E ctx disk).result⟩ := by
  rcases @load_cases E ctx disk hdisk with ⟨error, hload⟩ | ⟨state, hresult, hreadable⟩
  · rw [hload]
    exact hload
  · rw [hreadable.load, hresult]

/-! ## Reading what a save wrote -/

theorem Readable.createTaskRoot (h : Readable E ctx disk state) : Readable E ctx (disk.apply .createTaskRoot) state := by
  refine ⟨fun hfalse => (nomatch hfalse), ?_⟩
  have hread := h.read
  by_cases hroot : disk.taskRoot = false
  · obtain ⟨hsnapshot, hjournal⟩ := h.wellFormed hroot
    unfold readState at hread ⊢
    rw [h.baseline] at hread ⊢
    simp only [EditorDisk.apply, hsnapshot, hjournal, hroot, bind, Except.bind] at hread ⊢
    exact hread
  · have hsame : disk.apply .createTaskRoot = disk := by
      obtain ⟨taskRoot, snapshot, journal⟩ := disk
      rw [show taskRoot = true from Bool.eq_true_of_not_eq_false hroot]
      rfl
    rw [hsame]
    exact hread

theorem replayLines_append (lines more : List (List UInt8)) :
    replayLines E ctx state (lines ++ more) = (do
      let replayed ← replayLines E ctx state lines
      let rest ← replayLines E ctx replayed.1 more
      return (rest.1, replayed.2 || rest.2)) := by
  induction lines generalizing state with
  | nil =>
      show replayLines E ctx state more = (replayLines E ctx state more >>= fun rest => pure (rest.1, false || rest.2))
      cases replayLines E ctx state more <;> rfl
  | cons line lines ih =>
      rw [List.cons_append, replayLines, replayLines]
      cases hline : replayLine E ctx state line with
      | error error => rfl
      | ok replayed =>
          simp only [bind, Except.bind, ih]
          cases hlines : replayLines E ctx replayed.1 lines with
          | error error => rfl
          | ok middle =>
              simp only [pure, Except.pure]
              cases replayLines E ctx middle.1 more with
              | error error => rfl
              | ok last => simp only [Bool.or_assoc]

theorem replayLines_of_readJournal {journal : Option (List UInt8)} {next : StoredEditorCheckpoint} {migrated : Bool}
    (h : readJournal E ctx state journal = .ok (next, migrated)) :
    WholeLines (journal.getD []) ∧ replayLines E ctx state (fileLines (journal.getD [])) = .ok (next, migrated) := by
  unfold readJournal at h
  cases journal with
  | none => exact ⟨Or.inl rfl, h⟩
  | some encoded =>
      dsimp only at h
      split at h
      · cases h
      split at h
      · cases h
      · rename_i hwhole
        exact ⟨not_not.mp hwhole, h⟩

/-- A line that is appended is replayed after the others, unless the journal is now too long to be read. -/
theorem readState_append (h : Readable E ctx disk state) (hroot : disk.taskRoot = true) {line : List UInt8}
    (hline : newline ∉ line) (hne : line ≠ []) {next : StoredEditorCheckpoint}
    (hnext : replayLine E ctx state line = .ok (next, false)) :
    readState E ctx (disk.apply (.append line)) =
      if maxEditorJournalBytes < (disk.apply (.append line)).journalBytes then .error .invalidPath
      else .ok (next, false) := by
  have hread := h.read
  unfold readState at hread ⊢
  rw [h.baseline] at hread ⊢
  simp only [EditorDisk.apply, hroot, bind, Except.bind] at hread ⊢
  cases hsnapshot : readSnapshot E ctx disk.snapshot with
  | error error => rw [hsnapshot] at hread; cases hread
  | ok snapshot =>
  rw [hsnapshot] at hread
  dsimp only at hread ⊢
  cases hjournal : readJournal E ctx snapshot.1 disk.journal with
  | error error => rw [hjournal] at hread; cases hread
  | ok replayed =>
  rw [hjournal] at hread
  obtain ⟨hstate, hmigrated⟩ := Prod.mk.inj (Except.ok.inj hread)
  rw [Bool.or_eq_false_iff] at hmigrated
  obtain ⟨hwhole, hreplayed⟩ := replayLines_of_readJournal hjournal
  have hlines : replayLines E ctx snapshot.1 (fileLines (disk.journal.getD [] ++ (line ++ [newline]))) =
      .ok (next, false) := by
    rw [fileLines_append_line hwhole hline hne, replayLines_append, hreplayed]
    simp only [replayLines, hstate, hnext, hmigrated.2, bind, Except.bind, pure, Except.pure, Bool.or_false]
  unfold readJournal EditorDisk.journalBytes
  dsimp only [Option.getD_some]
  by_cases hlong : maxEditorJournalBytes < (disk.journal.getD [] ++ (line ++ [newline])).length
  · rw [if_pos hlong, if_pos hlong]
    rfl
  · rw [if_neg hlong, if_neg hlong, if_neg (not_not.mpr (wholeLines_append_line _ _)), hlines]
    simp only [hmigrated.1, if_false, Bool.or_false, Bool.true_eq_false]
    rfl

/-- After the line of a save, a load fails or returns the state that was saved. -/
theorem load_saved (h : Readable E ctx disk state) (hroot : disk.taskRoot = true)
    {request : ArtifactEditorCheckpointRequest} {revision : Nat}
    (hcheck : checkSave ctx (checkpointFromStored E state) request = .ok (some revision))
    (hlength : (lineOf E ctx revision state.files request).length ≤ maxEditorStateBytes) :
    load E ctx (disk.apply (.append (lineOf E ctx revision state.files request))) =
      ⟨[], if maxEditorJournalBytes <
          (disk.apply (.append (lineOf E ctx revision state.files request))).journalBytes then .error .invalidPath
        else .ok (checkpointFromStored E (state.saved request))⟩ := by
  obtain ⟨hsaveable, hrevision⟩ := checkSave_some hcheck
  change revision = state.revision + 1 at hrevision
  subst hrevision
  have hreplay := replayLine_transactionOf h.valid hsaveable hlength
  have hline : newline ∉ lineOf E ctx (state.revision + 1) state.files request := E.transactions.newline_notMem _
  have hne : lineOf E ctx (state.revision + 1) state.files request ≠ [] := E.transactions.encode_ne_nil _
  have hread := readState_append h hroot hline hne hreplay
  unfold load
  rw [hread]
  by_cases hlong : maxEditorJournalBytes <
      (disk.apply (.append (lineOf E ctx (state.revision + 1) state.files request))).journalBytes
  · rw [if_pos hlong, if_pos hlong]
  · rw [if_neg hlong, if_neg hlong]
    rfl

/-! ## Failed saves -/

/-- The end of a save fails with its line on disk just when the compaction is refused. -/
theorem commit_failure_iff (h : Readable E ctx disk state) {request : ArtifactEditorCheckpointRequest} {revision : Nat}
    (hcheck : checkSave ctx (checkpointFromStored E state) request = .ok (some revision)) :
    (∀ e, (commit E disk (lineOf E ctx revision state.files request) (storedOf E ctx revision request)).result = .error e →
        (load E ctx (disk.applyAll
            (commit E disk (lineOf E ctx revision state.files request) (storedOf E ctx revision request)).writes)).result =
          .ok (checkpointFromStored E state)) ↔
      ¬((lineOf E ctx revision state.files request).length ≤ maxEditorStateBytes ∧
        CompactionDue disk revision (lineOf E ctx revision state.files request) ∧
        maxEditorStateBytes < (E.encodeSnapshot (storedOf E ctx revision request)).length) := by
  have hroot := h.createTaskRoot
  unfold commit
  by_cases hlength : (lineOf E ctx revision state.files request).length ≤ maxEditorStateBytes
  swap
  · -- nothing was appended
    rw [if_pos (Nat.lt_of_not_le hlength)]
    refine iff_of_true (fun _ _ => ?_) fun hrefused => hlength hrefused.1
    show (load E ctx (disk.apply .createTaskRoot)).result = _
    rw [hroot.load]
  rw [if_neg (Nat.not_lt.mpr hlength)]
  have hiff : ((storedOf E ctx revision request).revision % compactEveryRevisions = 0 ∨ maxEditorJournalBytes / 2 <
        (disk.applyAll [.createTaskRoot, .append (lineOf E ctx revision state.files request)]).journalBytes) ↔
      CompactionDue disk revision (lineOf E ctx revision state.files request) := Iff.rfl
  by_cases hdue : CompactionDue disk revision (lineOf E ctx revision state.files request)
  swap
  · rw [if_neg (hiff.not.mpr hdue)]
    exact iff_of_true (fun e he => nomatch he) fun hrefused => hdue hrefused.2.1
  rw [if_pos (hiff.mpr hdue)]
  by_cases hsnapshot : maxEditorStateBytes < (E.encodeSnapshot (storedOf E ctx revision request)).length
  swap
  · rw [if_neg hsnapshot]
    exact iff_of_true (fun e he => nomatch he) fun hrefused => hsnapshot hrefused.2.2
  rw [if_pos hsnapshot]
  refine iff_of_false (fun hunchanged => ?_) (not_not.mpr ⟨hlength, hdue, hsnapshot⟩)
  have hafter := hunchanged _ rfl
  change (load E ctx ((disk.apply .createTaskRoot).apply (.append _))).result = _ at hafter
  rw [load_saved hroot rfl hcheck hlength] at hafter
  dsimp only at hafter
  split at hafter
  · cases hafter
  · have hrevision := congrArg ArtifactEditorCheckpoint.revision (Except.ok.inj hafter)
    exact Nat.succ_ne_self state.revision hrevision

theorem applyAll_append (writes more : List Write) :
    disk.applyAll (writes ++ more) = (disk.applyAll writes).applyAll more := List.foldl_append

/-- **Main result.** A save that fails leaves what a load returns, just when it did not fail for a snapshot that was too
large. -/
theorem save_failure_unchanged_iff (E : EditorEncodings) (ctx : EditorContext) (disk : EditorDisk)
    (hdisk : disk.WellFormed) (request : ArtifactEditorCheckpointRequest) :
    (∀ e, (save E ctx disk request).result = .error e →
      (load E (ctx.forRequest request) (disk.applyAll (save E ctx disk request).writes)).result =
        (load E (ctx.forRequest request) disk).result) ↔
      ¬CompactionRefused E (ctx.forRequest request) disk request := by
  have hctx : { ctx with baseSourceRevision := request.baseSourceRevision } = ctx.forRequest request := rfl
  unfold save CompactionRefused
  rw [hctx]
  dsimp only
  generalize ctx.forRequest request = ctx
  rcases @load_cases E ctx disk hdisk with ⟨error, hload⟩ | ⟨state, hresult, hreadable⟩
  · rw [hload]
    refine iff_of_true (fun _ _ => congrArg Effect.result hload) fun hrefused => ?_
    obtain ⟨_, _, hok, -⟩ := hrefused
    cases hok
  rw [hresult]
  dsimp only
  cases hcheck : checkSave ctx (checkpointFromStored E state) request with
  | error error =>
      refine iff_of_true (fun _ _ => ?_) fun hrefused => ?_
      · dsimp only
        rw [hreadable.load]
      · obtain ⟨current, revision, hcurrent, hsome, -⟩ := hrefused
        obtain rfl := Except.ok.inj hcurrent
        rw [hcheck] at hsome
        cases hsome
  | ok revision =>
  cases revision with
  | none =>
      refine iff_of_true (fun _ he => nomatch he) fun hrefused => ?_
      obtain ⟨current, revision, hcurrent, hsome, -⟩ := hrefused
      obtain rfl := Except.ok.inj hcurrent
      rw [hcheck] at hsome
      cases hsome
  | some revision =>
      dsimp only
      rw [applyAll_append]
      refine (commit_failure_iff hreadable hcheck).trans (not_congr ?_)
      constructor
      · intro hrefused
        exact ⟨_, _, rfl, hcheck, hrefused⟩
      · intro hrefused
        obtain ⟨current, revision', hcurrent, hsome, hrest⟩ := hrefused
        obtain rfl := Except.ok.inj hcurrent
        obtain rfl := Option.some.inj (Except.ok.inj (hcheck.symm.trans hsome))
        exact hrest

/-! ## A snapshot that does not fit -/

/-- A request for the sixty-fourth revision, in which the second of two files becomes as long as the first. -/
def draftFiles (app data : String) : Files where
  entries := [("/App.tsx", app), ("/Data.ts", data)]
  sorted := by
    show [("/App.tsx" : String), "/Data.ts"].Pairwise (· < ·)
    exact List.pairwise_pair.mpr (by decide)

theorem validateEditorState_draftFiles {app data : String} (happ : app.utf8ByteSize ≤ 300000)
    (hdata : data.utf8ByteSize ≤ 300000) :
    validateEditorState "/App.tsx" (draftFiles app data) "/App.tsx" .empty = .ok () := by
  have hpath : validVirtualPath "/App.tsx" = true ∧ validVirtualPath "/Data.ts" = true := by decide
  have hbytes : sourceBytes (draftFiles app data) ≤ maxEditorSourceBytes := by
    have hsize : "/App.tsx".utf8ByteSize = 8 ∧ "/Data.ts".utf8ByteSize = 8 := by decide
    show "/App.tsx".utf8ByteSize + app.utf8ByteSize + ("/Data.ts".utf8ByteSize + data.utf8ByteSize + 0) ≤ _
    unfold maxEditorSourceBytes
    omega
  unfold validateEditorState
  rw [if_neg, if_neg]
  · simp [Nat.not_lt.mpr hbytes, OrderedMap.values, OrderedMap.empty]
  · simp [draftFiles, OrderedMap.size, OrderedMap.keys, OrderedMap.empty, hpath, maxEditorFiles, maxEditorSelections]

def draftArtifact (text : String) : EditorContext where
  taskId := ⟨1⟩
  artifactId := ⟨2⟩
  baseSourceRevision := 3
  entrypoint := "/App.tsx"
  baselineFiles := draftFiles text ""

def draftRequest (text : String) : ArtifactEditorCheckpointRequest where
  expectedRevision := 63
  baseSourceRevision := 3
  files := draftFiles text text
  activePath := "/App.tsx"
  view := .code
  selections := .empty

def draftState (revision : Nat) (text data : String) : StoredEditorCheckpoint where
  schemaVersion := editorStateSchemaVersion
  taskId := ⟨1⟩
  artifactId := ⟨2⟩
  baseSourceRevision := 3
  baselineDigest := some sampleDigest
  revision := revision
  entrypoint := "/App.tsx"
  files := draftFiles text data
  activePath := "/App.tsx"
  view := .code
  selections := .empty

def draftTransaction (text : String) : EditorTransaction where
  schemaVersion := editorStateSchemaVersion
  taskId := ⟨1⟩
  artifactId := ⟨2⟩
  baseSourceRevision := 3
  baselineDigest := some sampleDigest
  revision := 64
  changedFiles := changedFiles (draftFiles text "") (draftFiles text text)
  activePath := "/App.tsx"
  view := .code
  selections := .empty

/-- As many other states as the bytes of a file in JSON. -/
@[irreducible] def fillerStates : List StoredEditorCheckpoint := List.replicate 1800000 (draftState 0 "" "")

noncomputable def draftSnapshots (text : String) : LineCodec StoredEditorCheckpoint :=
  .short ((fillerStates ++ [draftState 63 text ""]) ++ (fillerStates ++ [draftState 64 text text]))

/-- What is encoded is as long as JSON makes it where the text is 300000 control characters, six bytes each, to within a
few hundred bytes. -/
noncomputable def draftEncodings (text : String) : EditorEncodings where
  transactions := .short (fillerTransactions ++ [draftTransaction text])
  encodeSnapshot := (draftSnapshots text).encode
  decodeSnapshot := (draftSnapshots text).decode
  decode_encodeSnapshot := (draftSnapshots text).decode_encode
  baselineBytes _ _ _ := []
  stateBytes _ := []
  sha256 _ := sampleDigest

/-- The snapshot is of revision 63, and the journal is empty. -/
noncomputable def draftDisk (text : String) : EditorDisk where
  taskRoot := true
  snapshot := some ((draftEncodings text).encodeSnapshot (draftState 63 text ""))
  journal := none

theorem length_fillerStates : fillerStates.length = 1800000 := by
  unfold fillerStates
  exact List.length_replicate

theorem draftState_notMem {revision : Nat} (h : revision ≠ 0) (text data : String) :
    draftState revision text data ∉ fillerStates := by
  unfold fillerStates
  intro hmem
  exact h (congrArg StoredEditorCheckpoint.revision (List.eq_of_mem_replicate hmem))

theorem length_draftSnapshots (text : String) :
    ((draftEncodings text).encodeSnapshot (draftState 63 text "")).length ≤ 1800001 ∧
      3600001 < ((draftEncodings text).encodeSnapshot (draftState 64 text text)).length := by
  have hlast : draftState 64 text text ∉ (fillerStates ++ [draftState 63 text ""]) ++ fillerStates := by
    simp only [List.mem_append, List.mem_singleton, not_or]
    refine ⟨⟨draftState_notMem (by decide) _ _, fun hsame => ?_⟩, draftState_notMem (by decide) _ _⟩
    have hrevision : 64 = 63 := congrArg StoredEditorCheckpoint.revision hsame
    exact absurd hrevision (by decide)
  constructor
  · have hmem : draftState 63 text "" ∈ fillerStates ++ [draftState 63 text ""] :=
      List.mem_append_right _ List.mem_cons_self
    refine (LineCodec.length_short_encode_le_left _ hmem).trans_eq ?_
    rw [List.length_append, length_fillerStates, List.length_singleton]
  · have hlength := LineCodec.lt_length_short_encode hlast (List.mem_singleton_self (draftState 64 text text))
    rw [List.length_append, List.length_append, length_fillerStates, List.length_singleton, List.append_assoc] at hlength
    exact hlength

section Draft

variable {text : String} (htext : text.utf8ByteSize = 300000)
include htext

theorem readable_draftDisk : Readable (draftEncodings text) (draftArtifact text) (draftDisk text) (draftState 63 text "") := by
  have hbaseline : validateEditorState (draftArtifact text).entrypoint (draftArtifact text).baselineFiles
      (draftArtifact text).entrypoint .empty = .ok () := validateEditorState_draftFiles htext.le (Nat.zero_le _)
  have hvalid : validateStoredContext (draftEncodings text) (draftArtifact text) (draftState 63 text "") = .ok () :=
    validateStoredContext_eq_ok.mpr ⟨rfl, rfl, rfl, rfl, rfl, rfl, rfl, hbaseline⟩
  have hsnapshot := readSnapshot_encodeSnapshot hvalid ((length_draftSnapshots text).1.trans (by decide))
  refine ⟨fun hfalse => (nomatch hfalse), ?_⟩
  unfold readState
  show (_ >>= fun _ => readSnapshot (draftEncodings text) (draftArtifact text)
      (some ((draftEncodings text).encodeSnapshot (draftState 63 text ""))) >>= fun snapshot => _) = _
  rw [hsnapshot, hbaseline]
  rfl

theorem checkSave_draftRequest :
    checkSave (draftArtifact text) (checkpointFromStored (draftEncodings text) (draftState 63 text "")) (draftRequest text) =
      .ok (some 64) := by
  have hexpected : (draftRequest text).expectedRevision =
      (checkpointFromStored (draftEncodings text) (draftState 63 text "")).revision := rfl
  have hset : validateFixedFileSet (draftArtifact text).baselineFiles (draftRequest text).files = .ok () :=
    validateFixedFileSet_eq_ok.mpr rfl
  have hstate : validateEditorState (draftArtifact text).entrypoint (draftRequest text).files
      (draftRequest text).activePath (draftRequest text).selections = .ok () :=
    validateEditorState_draftFiles htext.le htext.le
  have hchanged : draftFiles text "" ≠ draftFiles text text := by
    intro hsame
    have hentries := congrArg OrderedMap.entries hsame
    have hdata : "" = text := (Prod.mk.inj (List.cons.inj (List.cons.inj hentries).2).1).2
    rw [← hdata] at htext
    exact absurd htext (by decide)
  unfold checkSave
  rw [if_neg (not_not.mpr hexpected), hset]
  simp only [hstate, bind, Except.bind]
  rw [if_neg fun hsame => hchanged hsame.1]
  rfl

/-- The revision is stored although the save fails. -/
theorem draft_stored_by_failure :
    ¬∀ e, (save (draftEncodings text) (draftArtifact text) (draftDisk text) (draftRequest text)).result = .error e →
      (load (draftEncodings text) ((draftArtifact text).forRequest (draftRequest text)) ((draftDisk text).applyAll
          (save (draftEncodings text) (draftArtifact text) (draftDisk text) (draftRequest text)).writes)).result =
        (load (draftEncodings text) ((draftArtifact text).forRequest (draftRequest text)) (draftDisk text)).result := by
  have hctx : { draftArtifact text with baseSourceRevision := (draftRequest text).baseSourceRevision } =
      draftArtifact text := rfl
  have hforRequest : (draftArtifact text).forRequest (draftRequest text) = draftArtifact text := rfl
  have hreadable := readable_draftDisk htext
  have hcheck := checkSave_draftRequest htext
  have hline : (lineOf (draftEncodings text) (draftArtifact text) 64 (draftFiles text "") (draftRequest text)).length ≤
      maxEditorStateBytes := by
    have hmem : draftTransaction text ∈ fillerTransactions ++ [draftTransaction text] :=
      List.mem_append_right _ List.mem_cons_self
    refine (LineCodec.length_short_encode_le _ hmem).trans ?_
    rw [List.length_append, length_fillerTransactions, List.length_singleton]
    decide
  have hsave : save (draftEncodings text) (draftArtifact text) (draftDisk text) (draftRequest text) =
      commit (draftEncodings text) (draftDisk text)
        (lineOf (draftEncodings text) (draftArtifact text) 64 (draftFiles text "") (draftRequest text))
        (storedOf (draftEncodings text) (draftArtifact text) 64 (draftRequest text)) := by
    unfold save
    rw [hctx]
    dsimp only
    rw [hreadable.load]
    dsimp only
    rw [hcheck]
    rfl
  intro hunchanged
  rw [hsave, hforRequest, hreadable.load] at hunchanged
  exact (commit_failure_iff hreadable hcheck).mp hunchanged
    ⟨hline, Or.inl rfl, (by decide : maxEditorStateBytes < 3600001).trans (length_draftSnapshots text).2⟩

end Draft

@[irreducible] def controls : String := String.ofList (List.replicate 300000 '\x01')

theorem utf8ByteSize_controls : controls.utf8ByteSize = 300000 := by
  unfold controls
  exact utf8ByteSize_replicate 300000 _

theorem refused_compaction_changes :
    ¬∀ e, (save (draftEncodings controls) (draftArtifact controls) (draftDisk controls) (draftRequest controls)).result =
        .error e →
      (load (draftEncodings controls) ((draftArtifact controls).forRequest (draftRequest controls))
          ((draftDisk controls).applyAll (save (draftEncodings controls) (draftArtifact controls) (draftDisk controls)
            (draftRequest controls)).writes)).result =
        (load (draftEncodings controls) ((draftArtifact controls).forRequest (draftRequest controls))
          (draftDisk controls)).result := draft_stored_by_failure utf8ByteSize_controls

theorem save_failure_unchanged_iff_draft :
    (∀ e, (save (draftEncodings controls) (draftArtifact controls) (draftDisk controls) (draftRequest controls)).result =
        .error e →
      (load (draftEncodings controls) ((draftArtifact controls).forRequest (draftRequest controls))
          ((draftDisk controls).applyAll (save (draftEncodings controls) (draftArtifact controls) (draftDisk controls)
            (draftRequest controls)).writes)).result =
        (load (draftEncodings controls) ((draftArtifact controls).forRequest (draftRequest controls))
          (draftDisk controls)).result) ↔
      ¬CompactionRefused (draftEncodings controls) ((draftArtifact controls).forRequest (draftRequest controls))
        (draftDisk controls) (draftRequest controls) :=
  save_failure_unchanged_iff (draftEncodings controls) (draftArtifact controls) (draftDisk controls)
    (readable_draftDisk utf8ByteSize_controls).wellFormed (draftRequest controls)

theorem load_again_draft :
    load (draftEncodings controls) (draftArtifact controls) ((draftDisk controls).applyAll
        (load (draftEncodings controls) (draftArtifact controls) (draftDisk controls)).writes) =
      ⟨[], (load (draftEncodings controls) (draftArtifact controls) (draftDisk controls)).result⟩ :=
  load_again (readable_draftDisk utf8ByteSize_controls).wellFormed

end HyperTerm.Daemon.EditorStore
