import HyperTerm.Daemon.ArtifactStore
import HyperTerm.Daemon.EditorStore
import HyperTerm.Daemon.RuntimeTraceReplay
import HyperTerm.Lib.Saturating

/-!
# Bug capsules

A bug capsule packs what the daemon knows of one artifact into one JSON document: its metadata, digests of its sources and
outputs, and the runtime trace. It is written by one daemon and opened by another.

* `buildBugCapsule` : the capsule of an artifact, of its editor state and of its trace;
* `validateBugCapsule` : the checks of an importer;
* `loadBugCapsule` : a file is opened. A capsule of the earlier schema is checked first and then migrated.

JSON and SHA-256 are parameters (`CapsuleEncodings`, `CapsuleDecoding`).
-/

namespace HyperTerm.Daemon.BugCapsule
open HyperTerm.Protocol HyperTerm.Lib HyperTerm.Daemon.ArtifactStore HyperTerm.Daemon.EditorStore
open HyperTerm.Daemon.RuntimeTrace (GenUiRuntimeTraceEvent GenUiRuntimeTraceKind GenUiRuntimeTraceProjection
  TraceEncodings replayProjectionDigest)

def legacyBugCapsuleSchemaVersion : Nat := 1

def bugCapsuleSchemaVersion : Nat := 2

def maxRuntimeEventBytes : Nat := 384 * 1024

def maxBugCapsuleBytes : Nat := 512 * 1024

def excludedDigest : String := String.ofList (List.replicate 64 '0')

inductive BugCapsuleError where
  | tooLarge
  | json
  | runtime (message : String)
  | io
  | invalid
  deriving DecidableEq

/-! ## Capsules -/

inductive GenUiBugCapsuleInclusion where
  | included
  | digestOnly
  | excluded
  deriving DecidableEq

structure GenUiBugCapsuleInventoryEntry where
  category : String
  inclusion : GenUiBugCapsuleInclusion
  itemCount : Nat
  byteCount : Nat
  reason : String
  deriving DecidableEq

structure GenUiBugCapsuleFile where
  path : String
  byteCount : Nat
  contentDigest : String
  modified : Bool
  deriving DecidableEq

structure GenUiBugCapsuleOutputs where
  bundleBytes : Nat
  bundleDigest : String
  cssBytes : Nat
  cssDigest : String
  sourceMapBytes : Nat
  sourceMapDigest : String
  deriving DecidableEq

structure GenUiBugCapsuleEditorState where
  baseSourceRevision : Nat
  revision : Nat
  stateDigest : String
  activePath : String
  view : String
  files : List GenUiBugCapsuleFile
  deriving DecidableEq

structure GenUiBugCapsuleEnvironment where
  hyperTermVersion : String
  os : String
  architecture : String
  denoRuntimeVersion : Option String
  denoExecutableDigest : Option String
  compilerScriptDigest : Option String
  compilerWasmDigest : Option String
  deriving DecidableEq

structure GenUiBugCapsule where
  schemaVersion : Nat
  mode : String
  artifact : AcceptedGenUiArtifact
  acceptedSource : List GenUiBugCapsuleFile
  acceptedSourceDigest : String
  outputs : GenUiBugCapsuleOutputs
  editor : GenUiBugCapsuleEditorState
  runtime : GenUiRuntimeTraceProjection
  runtimeTruncated : Bool
  omittedRuntimeEvents : Nat
  environment : GenUiBugCapsuleEnvironment
  inventory : List GenUiBugCapsuleInventoryEntry
  reproduction : List String
  capsuleDigest : Option String

structure AcceptedSourceIdentity where
  schemaVersion : Nat
  sourceRevision : Nat
  entrypoint : String
  files : List GenUiBugCapsuleFile

/-- What `serde_json` writes of an event, of a capsule and of the identity of accepted sources, and what the trace store
uses. -/
structure CapsuleEncodings where
  traces : TraceEncodings
  event : GenUiRuntimeTraceEvent → List UInt8
  capsule : GenUiBugCapsule → List UInt8
  identity : AcceptedSourceIdentity → List UInt8

/-- What `serde_json` reads in a file. -/
structure CapsuleDecoding (E : CapsuleEncodings) where
  fromSlice : List UInt8 → Option GenUiBugCapsule
  fromSlice_capsule : ∀ capsule, fromSlice (E.capsule capsule) = some capsule

variable (E : CapsuleEncodings)

def sha256Bytes (bytes : List UInt8) : String := E.traces.sha256 bytes

/-- The digest of the capsule without its own. -/
def unsignedDigest (capsule : GenUiBugCapsule) : String := sha256Bytes E (E.capsule { capsule with capsuleDigest := none })

def acceptedSourceIdentity (capsule : GenUiBugCapsule) : AcceptedSourceIdentity where
  schemaVersion := 1
  sourceRevision := capsule.artifact.sourceRevision
  entrypoint := capsule.artifact.entrypoint
  files := capsule.acceptedSource

def acceptedSourceDigest (capsule : GenUiBugCapsule) : String :=
  sha256Bytes E (E.identity (acceptedSourceIdentity capsule))

/-! ## Building -/

/-- What a capsule shows of an event: of a console message or an error, only that there was one. -/
def exportedEvent (event : GenUiRuntimeTraceEvent) : GenUiRuntimeTraceEvent :=
  if event.kind = .console ∨ event.kind = .error then
    { event with
      name := "observation.excluded"
      payload := .null
      payloadDigest := excludedDigest
      redacted := true
      recordedAtMs := 0 }
  else event

/-- The loop of `bounded_runtime_events`: the events before the first one that does not fit, and their bytes. -/
def boundedEvents (bytes : Nat) : List GenUiRuntimeTraceEvent → List GenUiRuntimeTraceEvent × Nat
  | [] => ([], bytes)
  | event :: events =>
      let event := exportedEvent event
      if maxRuntimeEventBytes < bytes + (E.event event).length then ([], bytes)
      else
        let rest := boundedEvents (bytes + (E.event event).length) events
        (event :: rest.1, rest.2)

def boundedRuntimeEvents (events : List GenUiRuntimeTraceEvent) : List GenUiRuntimeTraceEvent × Nat := boundedEvents E 0 events

def capsuleFile (modified : Bool) (file : String × String) : GenUiBugCapsuleFile where
  path := file.1
  byteCount := file.2.utf8ByteSize
  contentDigest := sha256Bytes E (utf8 file.2.toList)
  modified := modified

def acceptedFiles (artifact : StoredGenUiArtifact) : List GenUiBugCapsuleFile :=
  artifact.sourceFiles.entries.map (capsuleFile E false)

def editorFiles (artifact : StoredGenUiArtifact) (editor : ArtifactEditorCheckpoint) : List GenUiBugCapsuleFile :=
  editor.files.entries.map fun file => capsuleFile E (artifact.sourceFiles.get? file.1 ≠ some file.2) file

def capsuleOutputs (artifact : StoredGenUiArtifact) : GenUiBugCapsuleOutputs where
  bundleBytes := artifact.bundle.utf8ByteSize
  bundleDigest := sha256Bytes E (utf8 artifact.bundle.toList)
  cssBytes := artifact.css.utf8ByteSize
  cssDigest := sha256Bytes E (utf8 artifact.css.toList)
  sourceMapBytes := artifact.sourceMap.utf8ByteSize
  sourceMapDigest := sha256Bytes E (utf8 artifact.sourceMap.toList)

def sourceByteCount (files : List GenUiBugCapsuleFile) : Nat := (files.map GenUiBugCapsuleFile.byteCount).sum

def capsuleInventory (acceptedSource editorFiles : List GenUiBugCapsuleFile) (outputs : GenUiBugCapsuleOutputs)
    (runtimeEvents runtimeBytes : Nat) : List GenUiBugCapsuleInventoryEntry :=
  [⟨"artifact_metadata", .included, 1, 0, "Accepted Rust authority metadata required to identify the replay target"⟩,
    ⟨"accepted_source_content", .digestOnly, acceptedSource.length, sourceByteCount acceptedSource,
      "Virtual paths, byte counts, and SHA-256 only; source text is excluded by default"⟩,
    ⟨"editor_source_content", .digestOnly, editorFiles.length, sourceByteCount editorFiles,
      "Checkpoint metadata and SHA-256 only; unpublished source text is excluded"⟩,
    ⟨"compiler_outputs", .digestOnly, 3, outputs.bundleBytes + outputs.cssBytes + outputs.sourceMapBytes,
      "Bundle, CSS, and source map content are excluded; sizes and SHA-256 are included"⟩,
    ⟨"semantic_runtime_events", .included, runtimeEvents, runtimeBytes,
      "Bounded Rust-redacted replay inputs; console and error payloads use excluded placeholders"⟩,
    ⟨"terminal_output", .excluded, 0, 0, "Terminal output is untrusted and excluded by default"⟩,
    ⟨"provider_prompts", .excluded, 0, 0, "Provider prompts and responses are excluded by default"⟩,
    ⟨"mcp_payloads", .excluded, 0, 0, "MCP request and response payloads are excluded by default"⟩,
    ⟨"computer_use_and_screenshots", .excluded, 0, 0, "Computer Use frames and screenshots are excluded by default"⟩,
    ⟨"environment_variables", .excluded, 0, 0, "Environment values and credentials are never exported"⟩]

def reproductionSteps : List String :=
  ["Open this JSON in a Hyper Term offline Bug Capsule viewer.",
    "Verify capsule_digest before loading replay data.",
    "Replay semantic events only; do not execute Shell, ACP, MCP, or Computer Use effects.",
    "Match digest-only source and compiler outputs on the originating machine if deeper inspection is required."]

def viewName : ArtifactEditorView → String
  | .code => "code"
  | .diff => "diff"
  | .trace => "trace"

/-- The capsule before its two digests are set. -/
def draftCapsule (artifact : StoredGenUiArtifact) (editor : ArtifactEditorCheckpoint)
    (runtime : GenUiRuntimeTraceProjection) (environment : GenUiBugCapsuleEnvironment) : GenUiBugCapsule :=
  let bounded := boundedRuntimeEvents E runtime.events
  let omittedRuntimeEvents := runtime.events.length - bounded.1.length
  { schemaVersion := bugCapsuleSchemaVersion
    mode := "replay_only"
    artifact := artifact.metadata
    acceptedSource := acceptedFiles E artifact
    acceptedSourceDigest := ""
    outputs := capsuleOutputs E artifact
    editor :=
      { baseSourceRevision := editor.baseSourceRevision
        revision := editor.revision
        stateDigest := editor.stateDigest
        activePath := editor.activePath
        view := viewName editor.view
        files := editorFiles E artifact editor }
    runtime :=
      { artifactId := runtime.artifactId
        sourceRevision := runtime.sourceRevision
        projectionDigest := replayProjectionDigest E.traces runtime.sourceRevision bounded.1
        events := bounded.1 }
    runtimeTruncated := 0 < omittedRuntimeEvents
    omittedRuntimeEvents := omittedRuntimeEvents
    environment := environment
    inventory := capsuleInventory (acceptedFiles E artifact) (editorFiles E artifact editor) (capsuleOutputs E artifact)
      bounded.1.length bounded.2
    reproduction := reproductionSteps
    capsuleDigest := none }

def signCapsule (capsule : GenUiBugCapsule) : GenUiBugCapsule :=
  let capsule := { capsule with acceptedSourceDigest := acceptedSourceDigest E capsule }
  { capsule with capsuleDigest := some (unsignedDigest E capsule) }

def buildBugCapsule (artifact : StoredGenUiArtifact) (editor : ArtifactEditorCheckpoint)
    (runtime : GenUiRuntimeTraceProjection) (environment : GenUiBugCapsuleEnvironment) :
    Except BugCapsuleError GenUiBugCapsule :=
  let capsule := signCapsule E (draftCapsule E artifact editor runtime environment)
  if maxBugCapsuleBytes < (E.capsule capsule).length then .error .tooLarge else .ok capsule

/-! ## Checks of an importer -/

/-- `is_sha256` here takes letters of both cases. -/
def isDigest (value : String) : Bool :=
  value.utf8ByteSize = 64 &&
    value.toList.all fun c => ('0' ≤ c && c ≤ '9') || ('a' ≤ c && c ≤ 'f') || ('A' ≤ c && c ≤ 'F')

def validCapsuleFile (path digest : String) : Bool :=
  path.toList.head? = some '/' && path.utf8ByteSize ≤ 4096 && !decide (['.', '.'] <:+: path.toList) &&
    '\\' ∉ path.toList && isDigest digest

def verifyBugCapsule (capsule : GenUiBugCapsule) : Bool := capsule.capsuleDigest = some (unsignedDigest E capsule)

def validSourceIdentity (capsule : GenUiBugCapsule) (expectedSchemaVersion : Nat) : Bool :=
  if expectedSchemaVersion = legacyBugCapsuleSchemaVersion then capsule.acceptedSourceDigest = ""
  else if expectedSchemaVersion = bugCapsuleSchemaVersion then
    isDigest capsule.acceptedSourceDigest && acceptedSourceDigest E capsule = capsule.acceptedSourceDigest
  else false

/-- The first of the conditions that are checked together. -/
def validHeader (capsule : GenUiBugCapsule) (expectedSchemaVersion : Nat) : Bool :=
  capsule.schemaVersion = expectedSchemaVersion && capsule.mode = "replay_only" &&
    capsule.artifact.sourceRevision ≠ 0 && capsule.runtime.artifactId = capsule.artifact.artifactId &&
    capsule.runtime.sourceRevision = capsule.artifact.sourceRevision &&
    capsule.editor.baseSourceRevision = capsule.artifact.sourceRevision &&
    isDigest capsule.artifact.contentDigest && isDigest capsule.runtime.projectionDigest &&
    isDigest capsule.editor.stateDigest && isDigest capsule.outputs.bundleDigest && isDigest capsule.outputs.cssDigest &&
    isDigest capsule.outputs.sourceMapDigest && capsule.capsuleDigest.any isDigest &&
    validSourceIdentity E capsule expectedSchemaVersion

def validSizes (capsule : GenUiBugCapsule) : Bool :=
  capsule.acceptedSource ≠ [] && capsule.acceptedSource.length ≤ 100 && capsule.editor.files ≠ [] &&
    capsule.editor.files.length ≤ 100 && capsule.runtime.events.length ≤ 256 && capsule.inventory ≠ [] &&
    capsule.inventory.length ≤ 32 && capsule.reproduction ≠ [] && capsule.reproduction.length ≤ 16 &&
    capsule.reproduction.all fun step => step.utf8ByteSize ≤ 4096

def paths (files : List GenUiBugCapsuleFile) : List String := files.map GenUiBugCapsuleFile.path

/-- `any(|file| … || !paths.insert(file.path))` also finds a path that comes twice. -/
def validFiles (capsule : GenUiBugCapsule) : Bool :=
  let acceptedPaths := paths capsule.acceptedSource
  let editorPaths := paths capsule.editor.files
  (capsule.acceptedSource.all fun file => validCapsuleFile file.path file.contentDigest && !file.modified) &&
    decide acceptedPaths.Nodup &&
    (capsule.editor.files.all fun file => validCapsuleFile file.path file.contentDigest) && decide editorPaths.Nodup &&
    (acceptedPaths.all fun path => path ∈ editorPaths) && (editorPaths.all fun path => path ∈ acceptedPaths) &&
    capsule.artifact.entrypoint ∈ editorPaths && capsule.editor.activePath ∈ editorPaths

def maxU64 : Nat := 18446744073709551615

def validEvent (artifact : AcceptedGenUiArtifact) (event : GenUiRuntimeTraceEvent) : Bool :=
  event.schemaVersion = 1 && event.eventSequence ≠ 0 && event.artifactId = artifact.artifactId &&
    event.sourceRevision = artifact.sourceRevision && event.clientSequence ≠ 0 && isDigest event.payloadDigest

/-- Each event is numbered after the one before it. -/
def consecutive : List GenUiRuntimeTraceEvent → Bool
  | before :: event :: events =>
      event.eventSequence = satAdd maxU64 before.eventSequence 1 && consecutive (event :: events)
  | _ => true

def validEvents (capsule : GenUiBugCapsule) : Bool :=
  (capsule.runtime.events.all (validEvent capsule.artifact)) && consecutive capsule.runtime.events &&
    replayProjectionDigest E.traces capsule.runtime.sourceRevision capsule.runtime.events =
      capsule.runtime.projectionDigest

def requiredExclusions : List String :=
  ["terminal_output", "provider_prompts", "mcp_payloads", "computer_use_and_screenshots", "environment_variables"]

def validInventory (capsule : GenUiBugCapsule) : Bool :=
  (capsule.inventory.all fun entry =>
      entry.category ≠ "" && entry.category.utf8ByteSize ≤ 128 && entry.reason ≠ "" && entry.reason.utf8ByteSize ≤ 4096) &&
    decide (capsule.inventory.map GenUiBugCapsuleInventoryEntry.category).Nodup &&
    requiredExclusions.all fun category =>
      capsule.inventory.any fun entry => entry.category = category && entry.inclusion = .excluded

def validateBugCapsuleVersion (capsule : GenUiBugCapsule) (expectedSchemaVersion : Nat) : Except BugCapsuleError Unit :=
  if validHeader E capsule expectedSchemaVersion && validSizes capsule && validFiles capsule && validEvents E capsule &&
      validInventory capsule && verifyBugCapsule E capsule then
    .ok ()
  else .error .invalid

def validateBugCapsule (capsule : GenUiBugCapsule) : Except BugCapsuleError Unit :=
  validateBugCapsuleVersion E capsule bugCapsuleSchemaVersion

/-! ## Opening a file -/

/-- What is at a path while it is opened. -/
structure CapsulePath where
  isAbsolute : Bool
  isFile : Bool
  content : List UInt8

def migrateCapsule (capsule : GenUiBugCapsule) : GenUiBugCapsule :=
  signCapsule E { capsule with schemaVersion := bugCapsuleSchemaVersion, capsuleDigest := none }

/-- `match capsule.schema_version`. -/
def acceptCapsule (capsule : GenUiBugCapsule) : Except BugCapsuleError GenUiBugCapsule :=
  if capsule.schemaVersion = legacyBugCapsuleSchemaVersion then do
    validateBugCapsuleVersion E capsule legacyBugCapsuleSchemaVersion
    validateBugCapsule E (migrateCapsule E capsule)
    return migrateCapsule E capsule
  else if capsule.schemaVersion = bugCapsuleSchemaVersion then do
    validateBugCapsule E capsule
    return capsule
  else .error .invalid

/-- The file is not written to meanwhile, so that its size is asked for once. -/
def loadBugCapsule (D : CapsuleDecoding E) (path : CapsulePath) : Except BugCapsuleError GenUiBugCapsule :=
  if path.isAbsolute = false then .error .invalid
  else if path.isFile = false ∨ maxBugCapsuleBytes < path.content.length then .error .invalid
  else do
    let capsule ← okOr (D.fromSlice path.content) .json
    acceptCapsule E capsule

end HyperTerm.Daemon.BugCapsule
