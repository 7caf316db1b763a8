import HyperTerm.Daemon.BugCapsule
import HyperTerm.Daemon.EditorStoreFailures
import HyperTerm.Daemon.EditorStoreHistory
import Mathlib.Tactic.DeriveCountable

/-!
# Opening a capsule that was exported

The exporter takes what its stores returned; the importer checks everything again, and has bounds of its own.

* `Recorded` : an artifact, an editor state and a trace that the stores returned for one another;
* `load_saved_iff` : the importer opens a saved capsule unless it has more than a hundred files;
* `digest_binds` : a file with the digest of a capsule is that capsule, or is refused;
* `reopens_iff` : both forms are opened again just when there are few enough files and the indented form is not too long.
-/

namespace HyperTerm.Daemon.BugCapsule
open HyperTerm.Protocol HyperTerm.Lib HyperTerm.Daemon.ArtifactStore HyperTerm.Daemon.EditorStore
open HyperTerm.Daemon.RuntimeTrace (GenUiRuntimeTraceEvent GenUiRuntimeTraceKind GenUiRuntimeTraceProjection
  TraceEncodings replayProjectionDigest)

/-! ## What the stores return -/

/-- The stores of one daemon, which compute the same SHA-256. -/
structure Stores where
  artifacts : ArtifactEncodings
  editors : EditorEncodings
  capsules : CapsuleEncodings
  artifacts_sha256 : artifacts.sha256 = capsules.traces.sha256
  editors_sha256 : editors.sha256 = capsules.traces.sha256

/-- The artifact was read, the editor state was loaded for it, and so was the trace. -/
structure Recorded (S : Stores) (artifact : StoredGenUiArtifact) (editor : ArtifactEditorCheckpoint)
    (runtime : GenUiRuntimeTraceProjection) : Prop where
  read : ∃ files files' accepted, (ArtifactStore.read S.artifacts accepted).call files = (.ok artifact, files')
  edited : ∃ taskId disk, (EditorStore.load S.editors
    ⟨taskId, artifact.metadata.artifactId, artifact.metadata.sourceRevision, artifact.metadata.entrypoint,
      artifact.sourceFiles⟩ disk).result = .ok editor
  traced : ∃ taskId journal journal', (RuntimeTrace.load S.capsules.traces
    ⟨taskId, artifact.metadata.artifactId, artifact.metadata.sourceRevision⟩).call journal = (.ok runtime, journal')

variable {S : Stores} {artifact : StoredGenUiArtifact} {editor : ArtifactEditorCheckpoint}
  {runtime : GenUiRuntimeTraceProjection}

theorem isDigest_of_isSha256 {value : String} (h : isSha256 value = true) : isDigest value = true := by
  unfold isSha256 at h
  unfold isDigest
  rw [Bool.and_eq_true, beq_iff_eq, List.all_eq_true] at h
  rw [Bool.and_eq_true, decide_eq_true_iff, List.all_eq_true]
  refine ⟨h.1, fun c hc => ?_⟩
  rw [h.2 c hc, Bool.true_or]

theorem isDigest_sha256 (E : CapsuleEncodings) (bytes : List UInt8) : isDigest (sha256Bytes E bytes) = true :=
  isDigest_of_isSha256 (E.traces.isSha256_sha256 bytes)

/-- What the importer asks of an artifact, as it was read. -/
structure ReadArtifact (artifact : StoredGenUiArtifact) : Prop where
  sourceRevision : artifact.metadata.sourceRevision ≠ 0
  contentDigest : isSha256 artifact.metadata.contentDigest = true
  paths : ∀ path ∈ artifact.sourceFiles.keys, validVirtualSourcePath path = true

theorem Recorded.readArtifact (h : Recorded S artifact editor runtime) : ReadArtifact artifact := by
  obtain ⟨files, files', accepted, hread⟩ := h.read
  obtain ⟨_, candidate, _, -, -, -, hvalid, haccepted, rfl, -⟩ := call_read_eq_ok.mp hread
  have hcontent := (validateCandidate_schemaVersion hvalid).2
  unfold validateCandidate at hvalid
  simp only [ite_error_eq_ok, bind_eq_ok] at hvalid
  obtain ⟨hmetadata, -, _, hfiles, -⟩ := hvalid
  have hrevision : accepted.sourceRevision = candidate.sourceRevision := by
    rw [← haccepted]
    rfl
  have hdigest : accepted.contentDigest = candidate.contentDigest := by
    rw [← haccepted]
    rfl
  refine ⟨fun hzero => hmetadata (.inr (hrevision.symm.trans hzero)), ?_, ?_⟩
  · show isSha256 accepted.contentDigest = true
    rw [hdigest, hcontent]
    unfold contentDigest
    rw [S.artifacts_sha256]
    exact S.capsules.traces.isSha256_sha256 _
  · show ∀ path ∈ candidate.sourceFiles.keys, validVirtualSourcePath path = true
    intro path hpath
    unfold validateSourceFiles at hfiles
    have hne : candidate.sourceFiles.entries ≠ [] := by
      intro hnil
      rw [OrderedMap.keys, hnil] at hpath
      cases hpath
    rw [if_neg hne] at hfiles
    simp only [ite_error_eq_ok] at hfiles
    obtain ⟨-, hpaths, -⟩ := hfiles
    rw [← Bool.not_eq_false]
    exact fun hfalse => hpaths ⟨path, hpath, hfalse⟩

/-- What the importer asks of an editor state, as it was loaded. -/
structure LoadedEditor (artifact : StoredGenUiArtifact) (editor : ArtifactEditorCheckpoint) : Prop where
  baseSourceRevision : editor.baseSourceRevision = artifact.metadata.sourceRevision
  stateDigest : isDigest editor.stateDigest = true
  keys : editor.files.keys = artifact.sourceFiles.keys
  entrypoint : artifact.metadata.entrypoint ∈ editor.files.keys
  activePath : editor.activePath ∈ editor.files.keys

theorem Recorded.loadedEditor (h : Recorded S artifact editor runtime) : LoadedEditor artifact editor := by
  obtain ⟨taskId, disk, hload⟩ := h.edited
  unfold EditorStore.load at hload
  split at hload
  · cases hload
  rename_i state migrationRequired hread
  obtain ⟨-, hvalid⟩ := valid_readState hread
  have heditor : editor = checkpointFromStored S.editors state := by
    split at hload
    · split at hload
      · cases hload
      · exact (Except.ok.inj hload).symm
    · exact (Except.ok.inj hload).symm
  obtain ⟨-, -, -, hrevision, -, hentrypoint, hkeys, hstate⟩ := validateStoredContext_eq_ok.mp hvalid
  unfold validateEditorState at hstate
  simp only [ite_error_eq_ok, not_or, not_not] at hstate
  obtain ⟨⟨-, -, hentry, hactive, -⟩, -⟩ := hstate
  rw [heditor]
  refine ⟨hrevision, ?_, hkeys.symm, ?_, hactive⟩
  · show isDigest (S.editors.sha256 _) = true
    rw [S.editors_sha256]
    exact isDigest_sha256 S.capsules _
  · show artifact.metadata.entrypoint ∈ state.files.keys
    rw [hentrypoint] at hentry
    exact hentry

/-! ## The events of a capsule -/

/-- What the importer asks of the events of a trace, as it was loaded. -/
structure ShownEvents (metadata : AcceptedGenUiArtifact) (events : List GenUiRuntimeTraceEvent) : Prop where
  length_le : events.length ≤ 256
  valid : ∀ event ∈ events, validEvent metadata event = true
  consecutive : consecutive events = true

theorem readLines_length {T : TraceEncodings} {key : RuntimeTrace.TraceKey} {lastSequence : Nat} {lines : List (List UInt8)}
    {events : List RuntimeTrace.StoredRuntimeTraceEvent} {migrated : Bool}
    (h : RuntimeTrace.readLines T key lastSequence lines = .ok (events, migrated)) : events.length = lines.length := by
  induction lines generalizing lastSequence events migrated with
  | nil =>
      obtain ⟨rfl, -⟩ := Prod.mk.inj (Except.ok.inj h)
      rfl
  | cons line lines ih =>
      rw [RuntimeTrace.readLines] at h
      split at h
      · cases h
      obtain ⟨decoded, -, h⟩ := bind_eq_ok.mp h
      obtain ⟨⟨stored, migrated⟩, -, h⟩ := bind_eq_ok.mp h
      dsimp only at h
      split at h
      · cases h
      obtain ⟨⟨rest, required⟩, hrest, h⟩ := bind_eq_ok.mp h
      obtain ⟨rfl, -⟩ := Prod.mk.inj (Except.ok.inj h)
      rw [List.length_cons, List.length_cons, ih hrest]

theorem consecutive_of_numbered {T : TraceEncodings} {key : RuntimeTrace.TraceKey} {lastSequence : Nat}
    {stored : List RuntimeTrace.StoredRuntimeTraceEvent} (h : RuntimeTrace.Numbered T key lastSequence stored)
    (hbound : lastSequence + stored.length ≤ maxU64) :
    consecutive (stored.map RuntimeTrace.StoredRuntimeTraceEvent.event) = true := by
  induction stored generalizing lastSequence with
  | nil => rfl
  | cons first stored ih =>
      rw [List.length_cons] at hbound
      obtain ⟨⟨-, hfirst⟩, hrest⟩ := h
      cases stored with
      | nil => rfl
      | cons second stored =>
          have hnext : second.event.eventSequence = satAdd maxU64 first.event.eventSequence 1 := by
            rw [List.length_cons] at hbound
            rw [hrest.1.2.eventSequence, hfirst.eventSequence, satAdd_eq_add (by omega)]
          have htail := ih hrest (by omega)
          rw [List.map_cons] at htail
          rw [List.map_cons, List.map_cons, BugCapsule.consecutive, htail, Bool.and_true]
          exact decide_eq_true hnext

theorem validEvent_of_belongsTo {T : TraceEncodings} {key : RuntimeTrace.TraceKey} {lastSequence : Nat}
    {stored : RuntimeTrace.StoredRuntimeTraceEvent} (h : RuntimeTrace.BelongsTo T key lastSequence stored)
    {metadata : AcceptedGenUiArtifact} (hartifact : key.artifactId = metadata.artifactId)
    (hrevision : key.sourceRevision = metadata.sourceRevision) : validEvent metadata stored.event = true := by
  obtain ⟨-, hschema, hid, hsource, hsequence, hclient, hdigest, -⟩ := h
  unfold validEvent
  have hpositive : stored.event.eventSequence ≠ 0 := by omega
  simp only [Bool.and_eq_true, decide_eq_true_eq]
  exact ⟨⟨⟨⟨⟨hschema, hpositive⟩, hid.trans hartifact⟩, hsource.trans hrevision⟩, hclient⟩, isDigest_of_isSha256 hdigest⟩

theorem validEvent_of_numbered {T : TraceEncodings} {key : RuntimeTrace.TraceKey} {lastSequence : Nat}
    {stored : List RuntimeTrace.StoredRuntimeTraceEvent} (h : RuntimeTrace.Numbered T key lastSequence stored)
    {metadata : AcceptedGenUiArtifact} (hartifact : key.artifactId = metadata.artifactId)
    (hrevision : key.sourceRevision = metadata.sourceRevision) :
    ∀ event ∈ stored.map RuntimeTrace.StoredRuntimeTraceEvent.event, validEvent metadata event = true := by
  induction stored generalizing lastSequence with
  | nil => exact List.forall_mem_nil _
  | cons first stored ih =>
      obtain ⟨⟨-, hfirst⟩, hrest⟩ := h
      rw [List.map_cons, List.forall_mem_cons]
      exact ⟨validEvent_of_belongsTo hfirst hartifact hrevision, ih hrest⟩

theorem shownEvents_of_numbered {T : TraceEncodings} {key : RuntimeTrace.TraceKey}
    {stored : List RuntimeTrace.StoredRuntimeTraceEvent} (h : RuntimeTrace.Numbered T key 0 stored)
    (hbound : stored.length ≤ maxU64) {metadata : AcceptedGenUiArtifact} (hartifact : key.artifactId = metadata.artifactId)
    (hrevision : key.sourceRevision = metadata.sourceRevision) :
    ShownEvents metadata ((RuntimeTrace.projected stored).map RuntimeTrace.StoredRuntimeTraceEvent.event) := by
  unfold RuntimeTrace.projected
  have hlength : (stored.drop (stored.length - RuntimeTrace.maxTraceEventsProjected)).length ≤ 256 := by
    rw [List.length_drop]
    unfold RuntimeTrace.maxTraceEventsProjected
    omega
  generalize stored.length - RuntimeTrace.maxTraceEventsProjected = first at hlength ⊢
  rw [← List.take_append_drop first stored, RuntimeTrace.numbered_append] at h
  obtain ⟨-, hlast⟩ := h
  refine ⟨(List.length_map _).trans_le hlength, validEvent_of_numbered hlast hartifact hrevision,
    consecutive_of_numbered hlast ?_⟩
  rw [List.length_take, List.length_drop]
  omega

theorem Recorded.shownEvents (h : Recorded S artifact editor runtime) :
    runtime.artifactId = artifact.metadata.artifactId ∧ runtime.sourceRevision = artifact.metadata.sourceRevision ∧
      ShownEvents artifact.metadata runtime.events := by
  obtain ⟨taskId, journal, journal', hload⟩ := h.traced
  unfold RuntimeTrace.load at hload
  obtain ⟨stored, left, hread, hshown⟩ := InPlace.call_bind_eq_ok.mp hload
  obtain ⟨hok, -⟩ := Prod.mk.inj hshown
  have hruntime : RuntimeTrace.projection S.capsules.traces
    ⟨taskId, artifact.metadata.artifactId, artifact.metadata.sourceRevision⟩ stored = runtime := Except.ok.inj hok
  have hholds := RuntimeTrace.holds_of_readEvents hread
  have hbytes := (length_fileLines_le (left.getD [])).trans hholds.bounded
  rw [← readLines_length hholds.lines] at hbytes
  have hmax : RuntimeTrace.maxTraceJournalBytes ≤ maxU64 := by decide
  have hshownEvents : ShownEvents artifact.metadata _ :=
    shownEvents_of_numbered hholds.numbered (hbytes.trans hmax) rfl rfl
  rw [← hruntime, RuntimeTrace.projection_eq]
  dsimp only
  exact ⟨rfl, rfl, hshownEvents⟩

theorem validEvent_exportedEvent {metadata : AcceptedGenUiArtifact} {event : GenUiRuntimeTraceEvent}
    (h : validEvent metadata event = true) : validEvent metadata (exportedEvent event) = true := by
  have hexcluded : isDigest excludedDigest = true := by decide +kernel
  unfold exportedEvent
  split
  · unfold validEvent at h ⊢
    rw [Bool.and_eq_true] at h
    dsimp only
    rw [h.1, hexcluded, Bool.and_true]
  · exact h

theorem consecutive_map_exportedEvent (events : List GenUiRuntimeTraceEvent) :
    consecutive (events.map exportedEvent) = consecutive events := by
  have hsequence (event : GenUiRuntimeTraceEvent) : (exportedEvent event).eventSequence = event.eventSequence := by
    unfold exportedEvent
    split <;> rfl
  induction events with
  | nil => rfl
  | cons first events ih =>
      cases events with
      | nil => rfl
      | cons second events =>
          rw [List.map_cons] at ih
          rw [List.map_cons, List.map_cons, consecutive, consecutive, ih, hsequence, hsequence]

theorem consecutive_of_append {events more : List GenUiRuntimeTraceEvent} (h : consecutive (events ++ more) = true) :
    consecutive events = true := by
  induction events with
  | nil => rfl
  | cons first events ih =>
      cases events with
      | nil => rfl
      | cons second events =>
          rw [List.cons_append, List.cons_append, consecutive, Bool.and_eq_true] at h
          rw [consecutive, h.1, Bool.true_and]
          exact ih h.2

/-- A capsule has the first events, as they are exported. -/
theorem boundedEvents_append (E : CapsuleEncodings) (bytes : Nat) (events : List GenUiRuntimeTraceEvent) :
    ∃ more, events.map exportedEvent = (boundedEvents E bytes events).1 ++ more := by
  induction events generalizing bytes with
  | nil => exact ⟨[], rfl⟩
  | cons event events ih =>
      unfold boundedEvents
      dsimp only
      split
      · exact ⟨_, rfl⟩
      · obtain ⟨more, hmore⟩ := ih (bytes + (E.event (exportedEvent event)).length)
        exact ⟨more, by rw [List.map_cons, hmore, List.cons_append]⟩

theorem ShownEvents.bounded {metadata : AcceptedGenUiArtifact} {events : List GenUiRuntimeTraceEvent}
    (h : ShownEvents metadata events) (E : CapsuleEncodings) :
    ShownEvents metadata (boundedRuntimeEvents E events).1 := by
  obtain ⟨more, hmore⟩ := boundedEvents_append E 0 events
  have hlength := congrArg List.length hmore
  rw [List.length_map, List.length_append] at hlength
  have hle := h.length_le
  unfold boundedRuntimeEvents
  refine ⟨by omega, fun event hevent => ?_, ?_⟩
  · have hmem : event ∈ events.map exportedEvent := by
      rw [hmore]
      exact List.mem_append_left _ hevent
    obtain ⟨recorded, hrecorded, rfl⟩ := List.mem_map.mp hmem
    exact validEvent_exportedEvent (h.valid recorded hrecorded)
  · have hall := h.consecutive
    rw [← consecutive_map_exportedEvent, hmore] at hall
    exact consecutive_of_append hall

/-! ## What was built is valid -/

section

variable {E : CapsuleEncodings} {environment : GenUiBugCapsuleEnvironment} {capsule : GenUiBugCapsule}

theorem buildBugCapsule_eq_ok :
    buildBugCapsule E artifact editor runtime environment = .ok capsule ↔
      capsule = signCapsule E (draftCapsule E artifact editor runtime environment) ∧
        (E.capsule capsule).length ≤ maxBugCapsuleBytes := by
  unfold buildBugCapsule
  dsimp only
  constructor
  · intro h
    split at h
    · cases h
    · rename_i hle
      obtain rfl := Except.ok.inj h
      exact ⟨rfl, Nat.le_of_not_lt hle⟩
  · intro h
    obtain ⟨rfl, hle⟩ := h
    rw [if_neg (Nat.not_lt.mpr hle)]

theorem verifyBugCapsule_signCapsule (draft : GenUiBugCapsule) : verifyBugCapsule E (signCapsule E draft) = true :=
  decide_eq_true rfl

theorem validSourceIdentity_signCapsule (draft : GenUiBugCapsule) :
    validSourceIdentity E (signCapsule E draft) bugCapsuleSchemaVersion = true := by
  unfold validSourceIdentity
  rw [if_neg (by decide), if_pos rfl, Bool.and_eq_true, decide_eq_true_iff]
  exact ⟨isDigest_sha256 E _, rfl⟩

theorem validHeader_built (hartifact : ReadArtifact artifact) (heditor : LoadedEditor artifact editor)
    (hid : runtime.artifactId = artifact.metadata.artifactId)
    (hrevision : runtime.sourceRevision = artifact.metadata.sourceRevision) :
    validHeader E (signCapsule E (draftCapsule E artifact editor runtime environment)) bugCapsuleSchemaVersion = true := by
  unfold validHeader
  rw [validSourceIdentity_signCapsule, Bool.and_true]
  simp only [Bool.and_eq_true, decide_eq_true_eq]
  refine ⟨⟨⟨⟨⟨⟨⟨⟨⟨⟨⟨⟨rfl, rfl⟩, hartifact.sourceRevision⟩, hid⟩, hrevision⟩, heditor.baseSourceRevision⟩,
    isDigest_of_isSha256 hartifact.contentDigest⟩, isDigest_sha256 E _⟩, heditor.stateDigest⟩, isDigest_sha256 E _⟩, isDigest_sha256 E _⟩,
    isDigest_sha256 E _⟩, isDigest_sha256 E _⟩

theorem paths_acceptedFiles : paths (acceptedFiles E artifact) = artifact.sourceFiles.keys := by
  unfold paths acceptedFiles OrderedMap.keys
  rw [List.map_map]
  rfl

theorem paths_editorFiles : paths (editorFiles E artifact editor) = editor.files.keys := by
  unfold paths editorFiles OrderedMap.keys
  rw [List.map_map]
  rfl

theorem validCapsuleFile_of_path {path digest : String} (hpath : validVirtualSourcePath path = true)
    (hdigest : isDigest digest = true) : validCapsuleFile path digest = true := by
  unfold validVirtualSourcePath maxGenuiVirtualPathBytes at hpath
  simp only [Bool.and_eq_true, decide_eq_true_eq] at hpath
  obtain ⟨⟨⟨hslash, hdots⟩, hbackslash⟩, hlength⟩ := hpath
  unfold validCapsuleFile
  simp only [Bool.and_eq_true, decide_eq_true_eq]
  exact ⟨⟨⟨⟨hslash, hlength⟩, hdots⟩, hbackslash⟩, hdigest⟩

theorem validFiles_built (hartifact : ReadArtifact artifact) (heditor : LoadedEditor artifact editor) :
    validFiles (signCapsule E (draftCapsule E artifact editor runtime environment)) = true := by
  have haccepted : paths (acceptedFiles E artifact) = artifact.sourceFiles.keys := paths_acceptedFiles
  have hedited : paths (editorFiles E artifact editor) = artifact.sourceFiles.keys :=
    paths_editorFiles.trans heditor.keys
  have hfile (modified : Bool) {file : String × String} (hfile : file.1 ∈ artifact.sourceFiles.keys) :
      validCapsuleFile (capsuleFile E modified file).path (capsuleFile E modified file).contentDigest = true :=
    validCapsuleFile_of_path (hartifact.paths _ hfile) (isDigest_sha256 E _)
  show (((acceptedFiles E artifact).all fun file => validCapsuleFile file.path file.contentDigest && !file.modified) &&
    decide (paths (acceptedFiles E artifact)).Nodup &&
    ((editorFiles E artifact editor).all fun file => validCapsuleFile file.path file.contentDigest) &&
    decide (paths (editorFiles E artifact editor)).Nodup &&
    ((paths (acceptedFiles E artifact)).all fun path => path ∈ paths (editorFiles E artifact editor)) &&
    ((paths (editorFiles E artifact editor)).all fun path => path ∈ paths (acceptedFiles E artifact)) &&
    decide (artifact.metadata.entrypoint ∈ paths (editorFiles E artifact editor)) &&
    decide (editor.activePath ∈ paths (editorFiles E artifact editor))) = true
  rw [haccepted, hedited]
  simp only [Bool.and_eq_true, decide_eq_true_eq, List.all_eq_true]
  refine ⟨⟨⟨⟨⟨⟨⟨?_, OrderedMap.nodup_keys _⟩, ?_⟩, OrderedMap.nodup_keys _⟩, fun _ h => h⟩, fun _ h => h⟩, ?_⟩, ?_⟩
  · intro file hmem
    obtain ⟨entry, hentry, rfl⟩ := List.mem_map.mp hmem
    exact ⟨hfile false (List.mem_map_of_mem hentry), rfl⟩
  · intro file hmem
    obtain ⟨entry, hentry, rfl⟩ := List.mem_map.mp hmem
    refine hfile _ ?_
    rw [← heditor.keys]
    exact List.mem_map_of_mem hentry
  · rw [← heditor.keys]
    exact heditor.entrypoint
  · rw [← heditor.keys]
    exact heditor.activePath

theorem validEvents_built (hshown : ShownEvents artifact.metadata runtime.events) :
    validEvents E (signCapsule E (draftCapsule E artifact editor runtime environment)) = true := by
  have hbounded := hshown.bounded E
  show (((boundedRuntimeEvents E runtime.events).1.all (validEvent artifact.metadata)) &&
    consecutive (boundedRuntimeEvents E runtime.events).1 && decide (_ = _)) = true
  rw [hbounded.consecutive, Bool.and_true, Bool.and_eq_true, List.all_eq_true]
  exact ⟨hbounded.valid, decide_eq_true rfl⟩

/-- An inventory has the same categories, inclusions and reasons whatever it counts. -/
theorem validInventory_built :
    validInventory (signCapsule E (draftCapsule E artifact editor runtime environment)) = true := by
  have hall : ((capsuleInventory [] [] ⟨0, "", 0, "", 0, ""⟩ 0 0).all fun entry =>
      entry.category ≠ "" && entry.category.utf8ByteSize ≤ 128 && entry.reason ≠ "" &&
        entry.reason.utf8ByteSize ≤ 4096) = true := by decide +kernel
  have hnodup : ((capsuleInventory [] [] ⟨0, "", 0, "", 0, ""⟩ 0 0).map GenUiBugCapsuleInventoryEntry.category).Nodup := by
    decide
  have hexcluded : (requiredExclusions.all fun category => (capsuleInventory [] [] ⟨0, "", 0, "", 0, ""⟩ 0 0).any
      fun entry => entry.category = category && entry.inclusion = .excluded) = true := by decide
  unfold validInventory
  rw [Bool.and_eq_true, Bool.and_eq_true, decide_eq_true_iff]
  exact ⟨⟨hall, hnodup⟩, hexcluded⟩

/-- The sizes are within the importer's bounds, but for the number of files. -/
theorem validSizes_built_iff (heditor : LoadedEditor artifact editor)
    (hshown : ShownEvents artifact.metadata runtime.events) :
    validSizes (signCapsule E (draftCapsule E artifact editor runtime environment)) = true ↔
      artifact.sourceFiles.size ≤ 100 := by
  have hsize : editor.files.size = artifact.sourceFiles.size := by
    have hlength := congrArg List.length heditor.keys
    rwa [OrderedMap.keys, OrderedMap.keys, List.length_map, List.length_map] at hlength
  have hpositive : 0 < editor.files.size := by
    have hlength := List.length_pos_of_mem heditor.entrypoint
    rwa [OrderedMap.keys, List.length_map] at hlength
  have haccepted : (acceptedFiles E artifact).length = artifact.sourceFiles.size := List.length_map _
  have hedited : (editorFiles E artifact editor).length = artifact.sourceFiles.size := (List.length_map _).trans hsize
  have hsteps : (reproductionSteps ≠ [] && reproductionSteps.length ≤ 16 &&
      reproductionSteps.all fun step => step.utf8ByteSize ≤ 4096) = true := by decide
  have hbounded := (hshown.bounded E).length_le
  show (decide (acceptedFiles E artifact ≠ []) && decide ((acceptedFiles E artifact).length ≤ 100) &&
    decide (editorFiles E artifact editor ≠ []) && decide ((editorFiles E artifact editor).length ≤ 100) &&
    decide ((boundedRuntimeEvents E runtime.events).1.length ≤ 256) && true && true && decide (reproductionSteps ≠ []) &&
    decide (reproductionSteps.length ≤ 16) && _) = true ↔ _
  simp only [Bool.and_eq_true, decide_eq_true_eq] at hsteps ⊢
  rw [← List.length_pos_iff, ← List.length_pos_iff, haccepted, hedited]
  constructor
  · intro h
    obtain ⟨⟨⟨⟨⟨⟨⟨⟨⟨-, hle⟩, -⟩, -⟩, -⟩, -⟩, -⟩, -⟩, -⟩, -⟩ := h
    exact hle
  · intro hle
    have hpos : 0 < artifact.sourceFiles.size := by omega
    exact ⟨⟨⟨⟨⟨⟨⟨⟨⟨hpos, hle⟩, hpos⟩, hle⟩, hbounded⟩, trivial⟩, trivial⟩, hsteps.1.1⟩, hsteps.1.2⟩, hsteps.2⟩

/-! ## Opening what was built -/

/-- A file that was saved where it is opened. -/
def savedAt (content : List UInt8) : CapsulePath := ⟨true, true, content⟩

theorem acceptCapsule_built (hrecorded : Recorded S artifact editor runtime)
    (hcapsule : capsule = signCapsule S.capsules
      (draftCapsule S.capsules artifact editor runtime environment)) :
    acceptCapsule S.capsules capsule = if artifact.sourceFiles.size ≤ 100 then .ok capsule else .error .invalid := by
  obtain ⟨hid, hrevision, hshown⟩ := hrecorded.shownEvents
  have hheader : validHeader S.capsules capsule bugCapsuleSchemaVersion = true :=
    hcapsule ▸ validHeader_built hrecorded.readArtifact hrecorded.loadedEditor hid hrevision
  have hfiles : validFiles capsule = true := hcapsule ▸ validFiles_built hrecorded.readArtifact hrecorded.loadedEditor
  have hevents : validEvents S.capsules capsule = true := hcapsule ▸ validEvents_built hshown
  have hinventory : validInventory capsule = true := hcapsule ▸ validInventory_built
  have hverify : verifyBugCapsule S.capsules capsule = true := hcapsule ▸ verifyBugCapsule_signCapsule _
  have hschema : capsule.schemaVersion = bugCapsuleSchemaVersion := hcapsule ▸ rfl
  have hsizes : validSizes capsule = true ↔ artifact.sourceFiles.size ≤ 100 :=
    hcapsule ▸ validSizes_built_iff hrecorded.loadedEditor hshown
  unfold acceptCapsule validateBugCapsule validateBugCapsuleVersion
  rw [if_neg (by rw [hschema]; decide), if_pos hschema, hheader, hfiles, hevents, hinventory, hverify]
  simp only [Bool.true_and, Bool.and_true, hsizes]
  split <;> rfl

theorem loadBugCapsule_built (hrecorded : Recorded S artifact editor runtime)
    (hcapsule : capsule = signCapsule S.capsules
      (draftCapsule S.capsules artifact editor runtime environment))
    {D : CapsuleDecoding S.capsules} {content : List UInt8} (hcontent : D.fromSlice content = some capsule) :
    loadBugCapsule S.capsules D (savedAt content) =
      if content.length ≤ maxBugCapsuleBytes ∧ artifact.sourceFiles.size ≤ 100 then .ok capsule else .error .invalid := by
  unfold loadBugCapsule savedAt
  dsimp only
  rw [if_neg (by decide), hcontent]
  by_cases hlength : content.length ≤ maxBugCapsuleBytes
  · rw [if_neg fun hlarge => hlarge.elim (by decide) (Nat.not_lt.mpr hlength)]
    simp only [hlength, true_and]
    exact acceptCapsule_built hrecorded hcapsule
  · rw [if_pos (.inr (Nat.lt_of_not_le hlength)), if_neg fun h => hlength h.1]

theorem loadBugCapsule_built_iff (hrecorded : Recorded S artifact editor runtime)
    (hcapsule : capsule = signCapsule S.capsules
      (draftCapsule S.capsules artifact editor runtime environment))
    {D : CapsuleDecoding S.capsules} {content : List UInt8} (hcontent : D.fromSlice content = some capsule) :
    loadBugCapsule S.capsules D (savedAt content) = .ok capsule ↔
      content.length ≤ maxBugCapsuleBytes ∧ artifact.sourceFiles.size ≤ 100 := by
  rw [loadBugCapsule_built hrecorded hcapsule hcontent]
  split
  · rename_i hopens
    exact iff_of_true rfl hopens
  · rename_i hrefused
    exact iff_of_false (by intro h; cases h) hrefused

/-- A file that carries the digest of a capsule is not opened if it is of another one. SHA-256 is asked not to give the
two the same digest. -/
def BoundByDigest {E : CapsuleEncodings} (D : CapsuleDecoding E) (capsule : GenUiBugCapsule) : Prop :=
  ∀ path other, D.fromSlice path.content = some other → other ≠ capsule → other.capsuleDigest = capsule.capsuleDigest →
    (sha256Bytes E (E.capsule { other with capsuleDigest := none }) =
        sha256Bytes E (E.capsule { capsule with capsuleDigest := none }) →
      E.capsule { other with capsuleDigest := none } = E.capsule { capsule with capsuleDigest := none }) →
    ∃ error, loadBugCapsule E D path = .error error

theorem verifyBugCapsule_of_acceptCapsule {other opened : GenUiBugCapsule} (h : acceptCapsule E other = .ok opened) :
    verifyBugCapsule E other = true := by
  have hverify {version : Nat} (hvalid : validateBugCapsuleVersion E other version = .ok ()) :
      verifyBugCapsule E other = true := by
    unfold validateBugCapsuleVersion at hvalid
    split at hvalid
    · rename_i hall
      rw [Bool.and_eq_true] at hall
      exact hall.2
    · cases hvalid
  unfold acceptCapsule at h
  split at h
  · obtain ⟨⟨⟩, hvalid, -⟩ := bind_eq_ok.mp h
    exact hverify hvalid
  split at h
  · obtain ⟨⟨⟩, hvalid, -⟩ := bind_eq_ok.mp h
    exact hverify hvalid
  · cases h

theorem boundByDigest {D : CapsuleDecoding E} (h : verifyBugCapsule E capsule = true) :
    BoundByDigest D capsule := by
  intro path other hother hne hsame hcollision
  cases hload : loadBugCapsule E D path with
  | error error => exact ⟨error, rfl⟩
  | ok opened =>
      exfalso
      unfold loadBugCapsule at hload
      split at hload
      · cases hload
      split at hload
      · cases hload
      rw [hother] at hload
      have hverify := verifyBugCapsule_of_acceptCapsule hload
      unfold verifyBugCapsule at h hverify
      rw [decide_eq_true_iff] at h hverify
      rw [h, hverify] at hsame
      have hbytes := congrArg D.fromSlice (hcollision (Option.some.inj hsame))
      rw [D.fromSlice_capsule, D.fromSlice_capsule] at hbytes
      have hunsigned := Option.some.inj hbytes
      have hdigest : other.capsuleDigest = capsule.capsuleDigest := by rw [h, hverify, hsame]
      exact hne (congrArg₂ (fun (c : GenUiBugCapsule) digest => { c with capsuleDigest := digest }) hunsigned hdigest)

end

/-! ## Both forms -/

/-- The text that `downloadBugCapsule` saves, which JSON reads as the capsule. -/
structure IndentedForm {E : CapsuleEncodings} (D : CapsuleDecoding E) where
  bytes : GenUiBugCapsule → List UInt8
  fromSlice_bytes : ∀ capsule, D.fromSlice (bytes capsule) = some capsule

/-- Saved in either form the capsule is opened as it was, and its digest binds it. -/
def Reopens {E : CapsuleEncodings} (D : CapsuleDecoding E) (indented : IndentedForm D) (capsule : GenUiBugCapsule) : Prop :=
  loadBugCapsule E D (savedAt (E.capsule capsule)) = .ok capsule ∧
    loadBugCapsule E D (savedAt (indented.bytes capsule)) = .ok capsule ∧ BoundByDigest D capsule

/-- **When a capsule is opened again.** The importer takes a hundred files, where the stores take a thousand, and bounds
the file by the size that the exporter held the compact form to. -/
theorem reopens_iff (S : Stores) (D : CapsuleDecoding S.capsules) (indented : IndentedForm D) {artifact : StoredGenUiArtifact}
    {editor : ArtifactEditorCheckpoint} {runtime : GenUiRuntimeTraceProjection} {environment : GenUiBugCapsuleEnvironment}
    {capsule : GenUiBugCapsule} (hrecorded : Recorded S artifact editor runtime)
    (hbuild : buildBugCapsule S.capsules artifact editor runtime environment = .ok capsule) :
    Reopens D indented capsule ↔
      artifact.sourceFiles.size ≤ 100 ∧ (indented.bytes capsule).length ≤ maxBugCapsuleBytes := by
  obtain ⟨hcapsule, hcompact⟩ := buildBugCapsule_eq_ok.mp hbuild
  have hbound : BoundByDigest D capsule := boundByDigest (hcapsule ▸ verifyBugCapsule_signCapsule _)
  unfold Reopens
  rw [loadBugCapsule_built_iff hrecorded hcapsule (D.fromSlice_capsule capsule),
    loadBugCapsule_built_iff hrecorded hcapsule (indented.fromSlice_bytes capsule)]
  constructor
  · intro h
    obtain ⟨-, ⟨hindented, hfiles⟩, -⟩ := h
    exact ⟨hfiles, hindented⟩
  · intro h
    exact ⟨⟨hcompact, h.1⟩, ⟨h.2, h.1⟩, hbound⟩

/-! ## Runs -/

deriving instance Countable for GenUiBugCapsuleInclusion
deriving instance Countable for GenUiBugCapsuleInventoryEntry
deriving instance Countable for GenUiBugCapsuleFile
deriving instance Countable for GenUiBugCapsuleOutputs
deriving instance Countable for GenUiBugCapsuleEditorState
deriving instance Countable for GenUiBugCapsuleEnvironment
deriving instance Countable for GenUiRuntimeTraceProjection
deriving instance Countable for GenUiBugCapsule

/-- Files are sorted by their paths. -/
def manyFiles : OrderedMap String String where
  entries := ("/App.tsx", "") :: (List.range 100).map fun n =>
    (String.ofList ('/' :: 'f' :: (Nat.toDigits 10 (100 + n) ++ ".tsx".toList)), "")
  sorted := by
    rw [← List.isChain_iff_pairwise]
    decide +kernel

section

variable (files : OrderedMap String String)

def sampleArtifact : StoredGenUiArtifact := contentOf (metadataOf ⟨2⟩ (sampleCandidate files "ab" "c")) (sampleCandidate files "ab" "c")

/-- The editor state before the first save. -/
def sampleEditor : ArtifactEditorCheckpoint where
  schemaVersion := editorStateSchemaVersion
  artifactId := ⟨2⟩
  baseSourceRevision := 7
  revision := 0
  stateDigest := sampleHex 'a'
  entrypoint := "/App.tsx"
  files := files
  activePath := "/App.tsx"
  view := .code
  selections := .empty

/-- The trace of an artifact that reported nothing. -/
def sampleRuntime : GenUiRuntimeTraceProjection := ⟨⟨2⟩, 7, sampleHex 'a', []⟩

def sampleEnvironment : GenUiBugCapsuleEnvironment := ⟨"0.1.0", "macos", "aarch64", none, none, none, none⟩

noncomputable def sampleTraces : TraceEncodings where
  lines := .short []
  traceBytes _ := []
  storedBytes _ _ := []
  projectionBytes _ _ := []
  sha256 _ := sampleHex 'a'
  isSha256_sha256 _ := by decide +kernel

/-- Capsules in a code that is short for those given. -/
noncomputable def shortCapsules (capsules : List GenUiBugCapsule) : CapsuleEncodings where
  traces := sampleTraces
  event _ := []
  capsule := (LineCodec.short capsules).encode
  identity _ := []

noncomputable def sampleCapsule : GenUiBugCapsule :=
  signCapsule (shortCapsules [])
    (draftCapsule (shortCapsules []) (sampleArtifact files) (sampleEditor files) sampleRuntime sampleEnvironment)

noncomputable def sampleStores : Stores where
  artifacts := sampleEncodings [⟨storedArtifactSchemaVersion, some (sampleHex 'a'), sampleCandidate files "ab" "c"⟩]
    fun _ => sampleHex 'a'
  editors :=
    { transactions := .short []
      encodeSnapshot := (LineCodec.short []).encode
      decodeSnapshot := (LineCodec.short []).decode
      decode_encodeSnapshot := LineCodec.decode_encode_short
      baselineBytes := fun _ _ _ => []
      stateBytes := fun _ => []
      sha256 := fun _ => sampleHex 'a' }
  capsules := shortCapsules [sampleCapsule files]
  artifacts_sha256 := rfl
  editors_sha256 := rfl

noncomputable def sampleDecoding : CapsuleDecoding (sampleStores files).capsules where
  fromSlice := (LineCodec.short [sampleCapsule files]).decode
  fromSlice_capsule := (LineCodec.short [sampleCapsule files]).decode_encode

variable {files}

theorem recorded_sample (hsource : validateSourceFiles (sampleCandidate files "ab" "c") false = .ok ())
    (hne : files.entries ≠ []) (hstate : validateEditorState "/App.tsx" files "/App.tsx" .empty = .ok ()) :
    Recorded (sampleStores files) (sampleArtifact files) (sampleEditor files) sampleRuntime where
  read := by
    have hstored : storedEnvelope (sampleStores files).artifacts (sampleCandidate files "ab" "c") =
        ⟨storedArtifactSchemaVersion, some (sampleHex 'a'), sampleCandidate files "ab" "c"⟩ := by
      unfold storedEnvelope expectedSourceDigest
      have hsources : (sampleCandidate files "ab" "c").sourceFiles.entries ≠ [] := hne
      rw [if_neg hsources]
      rfl
    have hlength : ((sampleStores files).artifacts.encode
        (storedEnvelope (sampleStores files).artifacts (sampleCandidate files "ab" "c"))).length ≤ 1 := by
      rw [hstored]
      exact LineCodec.length_short_encode_le _ List.mem_cons_self
    exact ⟨fun _ => some ((sampleStores files).artifacts.encode _), _, metadataOf ⟨2⟩ (sampleCandidate files "ab" "c"),
      call_read_stored rfl (hlength.trans (by decide))
        (validateCandidate_sample hsource (by decide +kernel) (by decide +kernel) rfl)⟩
  edited := by
    refine ⟨⟨1⟩, ⟨false, none, none⟩, ?_⟩
    unfold EditorStore.load readState
    have hbaseline : validateEditorState (sampleArtifact files).metadata.entrypoint (sampleArtifact files).sourceFiles
        (sampleArtifact files).metadata.entrypoint .empty = .ok () := hstate
    dsimp only
    rw [hbaseline]
    rfl
  traced := ⟨⟨1⟩, none, none, rfl⟩

theorem buildBugCapsule_sample :
    buildBugCapsule (sampleStores files).capsules (sampleArtifact files) (sampleEditor files) sampleRuntime
      sampleEnvironment = .ok (sampleCapsule files) := by
  have hlength : ((shortCapsules [sampleCapsule files]).capsule (sampleCapsule files)).length ≤ 1 :=
    LineCodec.length_short_encode_le _ List.mem_cons_self
  exact buildBugCapsule_eq_ok.mpr ⟨rfl, hlength.trans (by decide)⟩

/-- An artifact of one file. -/
theorem recorded_single :
    Recorded (sampleStores (.singleton "/App.tsx" "")) (sampleArtifact (.singleton "/App.tsx" ""))
      (sampleEditor (.singleton "/App.tsx" "")) sampleRuntime :=
  recorded_sample (by decide +kernel) (by decide) (by decide +kernel)

theorem recorded_manyFiles :
    Recorded (sampleStores manyFiles) (sampleArtifact manyFiles) (sampleEditor manyFiles) sampleRuntime :=
  recorded_sample (by decide +kernel) (by decide) (by decide +kernel)

def compactTwice {E : CapsuleEncodings} (D : CapsuleDecoding E) : IndentedForm D := ⟨E.capsule, D.fromSlice_capsule⟩

/-- A capsule of a hundred and one files is exported, and refused. -/
theorem many_files_refused :
    ∃ (S : Stores) (D : CapsuleDecoding S.capsules) (artifact : StoredGenUiArtifact) (editor : ArtifactEditorCheckpoint)
      (runtime : GenUiRuntimeTraceProjection) (environment : GenUiBugCapsuleEnvironment) (capsule : GenUiBugCapsule),
      Recorded S artifact editor runtime ∧ buildBugCapsule S.capsules artifact editor runtime environment = .ok capsule ∧
        loadBugCapsule S.capsules D (savedAt (S.capsules.capsule capsule)) = .error .invalid := by
  refine ⟨_, sampleDecoding manyFiles, _, _, _, _, _, recorded_manyFiles, buildBugCapsule_sample, ?_⟩
  have hload := loadBugCapsule_built recorded_manyFiles (buildBugCapsule_eq_ok.mp buildBugCapsule_sample).1
    ((sampleDecoding manyFiles).fromSlice_capsule _)
  rw [if_neg] at hload
  · exact hload
  · intro h
    exact absurd h.2 (by decide)

theorem reopens_iff_single :
    Reopens (sampleDecoding (.singleton "/App.tsx" "")) (compactTwice _)
      (sampleCapsule (.singleton "/App.tsx" "")) := by
  refine (reopens_iff _ _ (compactTwice _) recorded_single buildBugCapsule_sample).mpr ⟨by decide +kernel, ?_⟩
  exact (buildBugCapsule_eq_ok.mp (@buildBugCapsule_sample (.singleton "/App.tsx" ""))).2

end

end HyperTerm.Daemon.BugCapsule
