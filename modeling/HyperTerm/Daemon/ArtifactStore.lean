import HyperTerm.Lib.InPlace
import HyperTerm.Lib.Lines
import HyperTerm.Lib.OrderedMap
import HyperTerm.Lib.Result
import HyperTerm.Lib.Text
import HyperTerm.Protocol.Block
import Mathlib.Data.String.Basic
import Mathlib.Tactic.DeriveCountable

/-!
# Stored artifacts

`ArtifactStore` keeps each accepted artifact in a file of its own. Files of an earlier version hold the candidate alone;
a read puts it into an envelope and replaces the file.

* `validateCandidate` : the checks of a candidate, when it is accepted and whenever it is read;
* `persist`, `read` : the two calls, on the files of the store;
* `artifact_reads_back_iff` : which artifacts are read, and read again;
* `read_intact_iff` : when a file that was rewritten is read as what was accepted.

No write fails. JSON and SHA-256 are parameters (`ArtifactEncodings`).
-/

namespace HyperTerm.Daemon.ArtifactStore
open HyperTerm.Protocol HyperTerm.Lib

def legacyStoredArtifactSchemaVersion : Nat := 1
def storedArtifactSchemaVersion : Nat := 2
def maxBundleBytes : Nat := 768 * 1024
def maxCssBytes : Nat := 256 * 1024
def maxSourceMapBytes : Nat := 768 * 1024
def maxStoredArtifactBytes : Nat := 4 * 1024 * 1024
def maxDiagnostics : Nat := 256
def maxGenuiSourceFiles : Nat := 1000
def maxGenuiSourceBytes : Nat := 1024 * 1024
def maxGenuiVirtualPathBytes : Nat := 4 * 1024

structure GenUiCompileDiagnostic where
  severity : String
  text : String
  file : Option String
  line : Option Nat
  column : Option Nat
  deriving Countable

structure GenUiArtifactCandidate where
  schemaVersion : Nat
  sourceRevision : Nat
  entrypoint : String
  sourceFiles : OrderedMap String String
  bundle : String
  css : String
  sourceMap : String
  contentDigest : String
  compiler : GenUiCompilerIdentity
  diagnostics : List GenUiCompileDiagnostic
  deriving Countable

structure StoredArtifactEnvelope where
  schemaVersion : Nat
  acceptedSourceDigest : Option String
  candidate : GenUiArtifactCandidate
  deriving Countable

structure StoredGenUiArtifact where
  metadata : AcceptedGenUiArtifact
  sourceFiles : OrderedMap String String
  bundle : String
  css : String
  sourceMap : String

inductive ArtifactStoreError where
  | io
  | json
  | invalidMetadata
  | invalidEntrypoint
  | invalidSourceSnapshot
  | invalidCompiler
  | artifactOutputTooLarge
  | invalidDiagnostics
  | digestMismatch (expected actual : String)
  | storedArtifactTooLarge (bytes : Nat)
  | invalidStoredArtifact
  | unsupportedStoredSchema (version : Nat)
  | acceptedSourceDigestMismatch
  | metadataMismatch
  deriving DecidableEq

/-- What is asked of the JSON value in a file: its schema version, if it is a `u16`, whether it has a member `candidate`, and
what it is when it is taken for a candidate or an envelope. -/
structure ArtifactValue where
  schemaVersion : Option Nat
  hasCandidate : Bool
  candidate : Option GenUiArtifactCandidate
  envelope : Option StoredArtifactEnvelope

/-- `serde_json` and SHA-256: the bytes of an envelope, a file read as a value, the bytes of an accepted source, and the
digest in lower-case hexadecimal. -/
structure ArtifactEncodings where
  encode : StoredArtifactEnvelope → List UInt8
  fromSlice : List UInt8 → Option ArtifactValue
  fromSlice_encode : ∀ envelope, envelope.schemaVersion < 2 ^ 16 → ∃ value, fromSlice (encode envelope) = some value ∧
    value.schemaVersion = some envelope.schemaVersion ∧ value.envelope = some envelope
  sourceBytes : Nat → String → OrderedMap String String → List UInt8
  sha256 : List UInt8 → String

variable (E : ArtifactEncodings)

/-! ## Checks -/

def validVirtualSourcePath (value : String) : Bool :=
  value.toList.head? = some '/' && !decide (['.', '.'] <:+: value.toList) && '\\' ∉ value.toList &&
    value.utf8ByteSize ≤ maxGenuiVirtualPathBytes

def validVirtualEntrypoint (value : String) : Bool :=
  validVirtualSourcePath value &&
    [".tsx", ".ts", ".jsx", ".js"].any fun extension => extension.toList.isSuffixOf value.toList

/-- A sum that saturates is past the bound as well. -/
def validateSourceFiles (candidate : GenUiArtifactCandidate) (requireSource : Bool) : Except ArtifactStoreError Unit :=
  if candidate.sourceFiles.entries = [] then
    if requireSource then .error .invalidSourceSnapshot else .ok ()
  else if maxGenuiSourceFiles < candidate.sourceFiles.size ∨ candidate.entrypoint ∉ candidate.sourceFiles.keys then
    .error .invalidSourceSnapshot
  else if ∃ path ∈ candidate.sourceFiles.keys, validVirtualSourcePath path = false then .error .invalidSourceSnapshot
  else if maxGenuiSourceBytes <
      (candidate.sourceFiles.entries.map fun file => file.1.utf8ByteSize + file.2.utf8ByteSize).sum then
    .error .invalidSourceSnapshot
  else .ok ()

def validateDiagnostics (diagnostics : List GenUiCompileDiagnostic) : Except ArtifactStoreError Unit :=
  if maxDiagnostics < diagnostics.length ∨ ∃ diagnostic ∈ diagnostics, diagnostic.severity ≠ "warning" ∨
      16 * 1024 < diagnostic.text.utf8ByteSize ∨ diagnostic.file.any (fun path => 4096 < path.utf8ByteSize) then
    .error .invalidDiagnostics
  else .ok ()

/-- The digest of what an artifact shows: the bundle, and right after it the style sheet. -/
def contentDigest (bundle css : String) : String := E.sha256 (utf8 bundle.toList ++ utf8 css.toList)

def validateCandidate (candidate : GenUiArtifactCandidate) (requireSource : Bool) : Except ArtifactStoreError Unit := do
  if candidate.schemaVersion ≠ 1 ∨ candidate.sourceRevision = 0 then .error .invalidMetadata
  else if validVirtualEntrypoint candidate.entrypoint = false then .error .invalidEntrypoint
  else do
    validateSourceFiles candidate requireSource
    if candidate.compiler.name ≠ "esbuild-wasm" ∨ candidate.compiler.version.isEmpty ∨
        64 < candidate.compiler.version.utf8ByteSize then
      .error .invalidCompiler
    else if maxBundleBytes < candidate.bundle.utf8ByteSize ∨ maxCssBytes < candidate.css.utf8ByteSize ∨
        maxSourceMapBytes < candidate.sourceMap.utf8ByteSize then
      .error .artifactOutputTooLarge
    else do
      validateDiagnostics candidate.diagnostics
      if candidate.contentDigest ≠ contentDigest E candidate.bundle candidate.css then
        .error (.digestMismatch candidate.contentDigest (contentDigest E candidate.bundle candidate.css))
      else .ok ()

/-! ## Envelopes -/

def acceptedSourceDigest (candidate : GenUiArtifactCandidate) : String :=
  E.sha256 (E.sourceBytes candidate.sourceRevision candidate.entrypoint candidate.sourceFiles)

def expectedSourceDigest (candidate : GenUiArtifactCandidate) : Option String :=
  if candidate.sourceFiles.entries = [] then none else some (acceptedSourceDigest E candidate)

def storedEnvelope (candidate : GenUiArtifactCandidate) : StoredArtifactEnvelope where
  schemaVersion := storedArtifactSchemaVersion
  acceptedSourceDigest := expectedSourceDigest E candidate
  candidate := candidate

def encodeStoredArtifact (envelope : StoredArtifactEnvelope) : Except ArtifactStoreError (List UInt8) :=
  if maxStoredArtifactBytes < (E.encode envelope).length then
    .error (.storedArtifactTooLarge (E.encode envelope).length)
  else .ok (E.encode envelope)

/-- The candidate in a file, and whether the file is of the earlier version. -/
def decodeStoredArtifact (encoded : List UInt8) : Except ArtifactStoreError (GenUiArtifactCandidate × Bool) := do
  let value ← okOr (E.fromSlice encoded) .json
  let version ← okOr value.schemaVersion .invalidStoredArtifact
  if version = legacyStoredArtifactSchemaVersion ∧ value.hasCandidate = false then do
    let candidate ← okOr value.candidate .json
    return (candidate, true)
  else if version = storedArtifactSchemaVersion then do
    let envelope ← okOr value.envelope .json
    if envelope.candidate.schemaVersion ≠ legacyStoredArtifactSchemaVersion then .error .invalidMetadata
    else if envelope.acceptedSourceDigest ≠ expectedSourceDigest E envelope.candidate then
      .error .acceptedSourceDigestMismatch
    else return (envelope.candidate, false)
  else .error (.unsupportedStoredSchema version)

/-! ## The two calls -/

/-- The files of the store, by artifact. -/
abbrev ArtifactFiles := ArtifactId → Option (List UInt8)

abbrev Storing := InPlace ArtifactFiles ArtifactStoreError

/-- What the journal records of an accepted candidate. -/
def metadataOf (id : ArtifactId) (candidate : GenUiArtifactCandidate) : AcceptedGenUiArtifact where
  artifactId := id
  sourceRevision := candidate.sourceRevision
  entrypoint := candidate.entrypoint
  contentDigest := candidate.contentDigest
  compiler := candidate.compiler

def contentOf (accepted : AcceptedGenUiArtifact) (candidate : GenUiArtifactCandidate) : StoredGenUiArtifact where
  metadata := accepted
  sourceFiles := candidate.sourceFiles
  bundle := candidate.bundle
  css := candidate.css
  sourceMap := candidate.sourceMap

/-- `id` is the new identity that is drawn for the artifact. -/
def persist (id : ArtifactId) (candidate : GenUiArtifactCandidate) : Storing AcceptedGenUiArtifact := do
  InPlace.ofExcept (validateCandidate E candidate true)
  let encoded ← InPlace.ofExcept (encodeStoredArtifact E (storedEnvelope E candidate))
  modify fun files => Function.update files id (some encoded)
  return metadataOf id candidate

def read (accepted : AcceptedGenUiArtifact) : Storing StoredGenUiArtifact := do
  match (← InPlace.self) accepted.artifactId with
  | none => throw .io
  | some encoded => do
      InPlace.refuseIf (maxStoredArtifactBytes < encoded.length) .invalidStoredArtifact
      let (candidate, migrationRequired) ← InPlace.ofExcept (decodeStoredArtifact E encoded)
      InPlace.ofExcept (validateCandidate E candidate false)
      InPlace.refuseIf (metadataOf accepted.artifactId candidate ≠ accepted) .metadataMismatch
      if migrationRequired then do
        let migrated ← InPlace.ofExcept (encodeStoredArtifact E (storedEnvelope E candidate))
        modify fun files => Function.update files accepted.artifactId (some migrated)
        return contentOf accepted candidate
      else return contentOf accepted candidate

variable {E} {id : ArtifactId} {candidate : GenUiArtifactCandidate} {accepted : AcceptedGenUiArtifact}
  {files files' : ArtifactFiles} {content : StoredGenUiArtifact}

/-! ## What a call does -/

theorem encodeStoredArtifact_eq_ok {envelope : StoredArtifactEnvelope} {encoded : List UInt8} :
    encodeStoredArtifact E envelope = .ok encoded ↔
      (E.encode envelope).length ≤ maxStoredArtifactBytes ∧ encoded = E.encode envelope := by
  unfold encodeStoredArtifact
  rw [ite_error_eq_ok, Nat.not_lt, Except.ok.injEq, eq_comm (a := encoded)]

/-- What is asked of a source on acceptance is more than what is asked of it later. -/
theorem validateCandidate_later (h : validateCandidate E candidate true = .ok ()) :
    validateCandidate E candidate false = .ok () := by
  have hsource (hok : validateSourceFiles candidate true = .ok ()) : validateSourceFiles candidate false = .ok () := by
    unfold validateSourceFiles at hok ⊢
    by_cases hempty : candidate.sourceFiles.entries = []
    · rw [if_pos hempty, if_pos rfl] at hok
      cases hok
    · rw [if_neg hempty] at hok ⊢
      exact hok
  unfold validateCandidate at h ⊢
  simp only [ite_error_eq_ok, bind_eq_ok] at h ⊢
  obtain ⟨hmetadata, hentrypoint, _, hfiles, hrest⟩ := h
  exact ⟨hmetadata, hentrypoint, (), hsource hfiles, hrest⟩

theorem validateCandidate_schemaVersion {requireSource : Bool}
    (h : validateCandidate E candidate requireSource = .ok ()) :
    candidate.schemaVersion = 1 ∧ candidate.contentDigest = contentDigest E candidate.bundle candidate.css := by
  unfold validateCandidate at h
  simp only [ite_error_eq_ok, bind_eq_ok] at h
  obtain ⟨hmetadata, -, _, -, -, -, _, -, hdigest, -⟩ := h
  simp only [not_or, not_not] at hmetadata hdigest
  exact ⟨hmetadata.1, hdigest⟩

theorem decodeStoredArtifact_encode (h : candidate.schemaVersion = 1) :
    decodeStoredArtifact E (E.encode (storedEnvelope E candidate)) = .ok (candidate, false) := by
  have hbound : (storedEnvelope E candidate).schemaVersion < 2 ^ 16 := (by decide : storedArtifactSchemaVersion < 2 ^ 16)
  obtain ⟨value, hvalue, hversion, henvelope⟩ := E.fromSlice_encode (storedEnvelope E candidate) hbound
  change value.schemaVersion = some storedArtifactSchemaVersion at hversion
  unfold decodeStoredArtifact
  simp only [okOr, hvalue, hversion, bind, Except.bind, henvelope]
  have hschema : (storedEnvelope E candidate).candidate.schemaVersion = legacyStoredArtifactSchemaVersion := h
  rw [if_neg (fun hlegacy => absurd hlegacy.1 (by decide)), if_pos trivial, if_neg (not_not.mpr hschema)]
  exact if_neg (not_not.mpr rfl)

/-- When a read succeeds, with what, and what it leaves. -/
theorem call_read_eq_ok :
    (read E accepted).call files = (.ok content, files') ↔
      ∃ encoded candidate migrationRequired, files accepted.artifactId = some encoded ∧
        encoded.length ≤ maxStoredArtifactBytes ∧ decodeStoredArtifact E encoded = .ok (candidate, migrationRequired) ∧
        validateCandidate E candidate false = .ok () ∧ metadataOf accepted.artifactId candidate = accepted ∧
        content = contentOf accepted candidate ∧
        (migrationRequired = false ∧ files' = files ∨
          migrationRequired = true ∧ (E.encode (storedEnvelope E candidate)).length ≤ maxStoredArtifactBytes ∧
            files' = Function.update files accepted.artifactId (some (E.encode (storedEnvelope E candidate)))) := by
  unfold read
  rw [InPlace.self_bind_eq_ok]
  cases hfile : files accepted.artifactId with
  | none =>
      refine iff_of_false (fun h => nomatch congrArg Prod.fst h) fun h => ?_
      obtain ⟨_, _, _, hsome, -⟩ := h
      cases hsome
  | some encoded =>
      dsimp only
      rw [InPlace.refuseIf_bind_eq_ok, InPlace.ofExcept_bind_eq_ok]
      constructor
      · intro h
        obtain ⟨hbounded, ⟨candidate, migrationRequired⟩, hdecode, h⟩ := h
        dsimp only at h
        rw [InPlace.ofExcept_bind_eq_ok] at h
        obtain ⟨_, hvalid, h⟩ := h
        rw [InPlace.refuseIf_bind_eq_ok, not_not] at h
        obtain ⟨hmetadata, h⟩ := h
        refine ⟨encoded, candidate, migrationRequired, rfl, Nat.le_of_not_lt hbounded, hdecode, hvalid, hmetadata, ?_⟩
        cases migrationRequired with
        | false =>
            obtain ⟨hcontent, rfl⟩ := Prod.mk.inj h
            exact ⟨(Except.ok.inj hcontent).symm, Or.inl ⟨rfl, rfl⟩⟩
        | true =>
            rw [if_pos rfl, InPlace.ofExcept_bind_eq_ok] at h
            obtain ⟨migrated, hmigrated, h⟩ := h
            obtain ⟨hlength, rfl⟩ := encodeStoredArtifact_eq_ok.mp hmigrated
            obtain ⟨hcontent, rfl⟩ := Prod.mk.inj h
            exact ⟨(Except.ok.inj hcontent).symm, Or.inr ⟨rfl, hlength, rfl⟩⟩
      · intro h
        obtain ⟨encoded', candidate, migrationRequired, hsame, hbounded, hdecode, hvalid, hmetadata, rfl, h⟩ := h
        obtain rfl := Option.some.inj hsame
        refine ⟨Nat.not_lt.mpr hbounded, ⟨candidate, migrationRequired⟩, hdecode, ?_⟩
        dsimp only
        rw [InPlace.ofExcept_bind_eq_ok]
        refine ⟨(), hvalid, ?_⟩
        rw [InPlace.refuseIf_bind_eq_ok]
        refine ⟨not_not.mpr hmetadata, ?_⟩
        rcases h with ⟨rfl, rfl⟩ | ⟨rfl, hlength, rfl⟩
        · rfl
        · rw [if_pos rfl, InPlace.ofExcept_bind_eq_ok]
          exact ⟨_, encodeStoredArtifact_eq_ok.mpr ⟨hlength, rfl⟩, rfl⟩

/-- When a candidate is accepted, and what is stored of it then. -/
theorem call_persist_eq_ok :
    (persist E id candidate).call files = (.ok accepted, files') ↔
      validateCandidate E candidate true = .ok () ∧
        (E.encode (storedEnvelope E candidate)).length ≤ maxStoredArtifactBytes ∧ accepted = metadataOf id candidate ∧
        files' = Function.update files id (some (E.encode (storedEnvelope E candidate))) := by
  unfold persist
  rw [InPlace.ofExcept_bind_eq_ok]
  constructor
  · intro h
    obtain ⟨_, hvalid, h⟩ := h
    rw [InPlace.ofExcept_bind_eq_ok] at h
    obtain ⟨encoded, hencoded, h⟩ := h
    obtain ⟨hlength, rfl⟩ := encodeStoredArtifact_eq_ok.mp hencoded
    obtain ⟨haccepted, rfl⟩ := Prod.mk.inj h
    exact ⟨hvalid, hlength, (Except.ok.inj haccepted).symm, rfl⟩
  · intro h
    obtain ⟨hvalid, hlength, rfl, rfl⟩ := h
    refine ⟨(), hvalid, ?_⟩
    rw [InPlace.ofExcept_bind_eq_ok]
    exact ⟨_, encodeStoredArtifact_eq_ok.mpr ⟨hlength, rfl⟩, rfl⟩

/-! ## Reading back -/

/-- A read of the artifact returns what the candidate holds, and so does every read after it. -/
def ReadsBack (E : ArtifactEncodings) (files : ArtifactFiles) (id : ArtifactId) (candidate : GenUiArtifactCandidate) : Prop :=
  ∃ files', (read E (metadataOf id candidate)).call files = (.ok (contentOf (metadataOf id candidate) candidate), files') ∧
    (read E (metadataOf id candidate)).call files' = (.ok (contentOf (metadataOf id candidate) candidate), files')

/-- A file of the current version is read as it is. -/
theorem call_read_stored (hfile : files id = some (E.encode (storedEnvelope E candidate)))
    (hlength : (E.encode (storedEnvelope E candidate)).length ≤ maxStoredArtifactBytes)
    (hvalid : validateCandidate E candidate false = .ok ()) :
    (read E (metadataOf id candidate)).call files = (.ok (contentOf (metadataOf id candidate) candidate), files) :=
  call_read_eq_ok.mpr ⟨_, candidate, false, hfile, hlength,
    decodeStoredArtifact_encode (validateCandidate_schemaVersion hvalid).1, hvalid, rfl, rfl, Or.inl ⟨rfl, rfl⟩⟩

theorem readsBack_persist (h : (persist E id candidate).call files = (.ok accepted, files')) :
    accepted = metadataOf id candidate ∧ ReadsBack E files' id candidate := by
  obtain ⟨hvalid, hlength, rfl, rfl⟩ := call_persist_eq_ok.mp h
  have hread := call_read_stored (E := E) (Function.update_self id (some (E.encode (storedEnvelope E candidate))) files)
    hlength (validateCandidate_later hvalid)
  exact ⟨rfl, _, hread, hread⟩

/-- A file of the earlier version is read, and replaced, if what it is replaced by is within the bound too. -/
theorem readsBack_legacy_iff {encoded : List UInt8} (hfile : files id = some encoded)
    (hdecode : decodeStoredArtifact E encoded = .ok (candidate, true))
    (hvalid : validateCandidate E candidate false = .ok ()) :
    ReadsBack E files id candidate ↔ encoded.length ≤ maxStoredArtifactBytes ∧
      (E.encode (storedEnvelope E candidate)).length ≤ maxStoredArtifactBytes := by
  constructor
  · intro h
    obtain ⟨files', hread, -⟩ := h
    obtain ⟨encoded', candidate', migrationRequired, hfile', hbounded, hdecode', -, -, -, hmigrated⟩ :=
      call_read_eq_ok.mp hread
    obtain rfl := Option.some.inj (hfile.symm.trans hfile')
    obtain ⟨rfl, rfl⟩ := Prod.mk.inj (Except.ok.inj (hdecode.symm.trans hdecode'))
    obtain ⟨hfalse, -⟩ | ⟨-, hlength, -⟩ := hmigrated
    · cases hfalse
    · exact ⟨hbounded, hlength⟩
  · intro h
    obtain ⟨hbounded, hlength⟩ := h
    exact ⟨_, call_read_eq_ok.mpr ⟨encoded, candidate, true, hfile, hbounded, hdecode, hvalid, rfl, rfl,
      Or.inr ⟨rfl, hlength, rfl⟩⟩, call_read_stored (Function.update_self id _ files) hlength hvalid⟩

/-- **Main result.** What is accepted is read back. A file of the earlier version that decodes and validates is read, and
read again, just when it is within the bound of a file before and after it is migrated. -/
theorem artifact_reads_back_iff (E : ArtifactEncodings) (files : ArtifactFiles) (id : ArtifactId)
    (candidate : GenUiArtifactCandidate) :
    (∀ accepted files', (persist E id candidate).call files = (.ok accepted, files') →
      accepted = metadataOf id candidate ∧ ReadsBack E files' id candidate) ∧
    ∀ encoded, files id = some encoded → decodeStoredArtifact E encoded = .ok (candidate, true) →
      validateCandidate E candidate false = .ok () →
        (ReadsBack E files id candidate ↔ encoded.length ≤ maxStoredArtifactBytes ∧
          (E.encode (storedEnvelope E candidate)).length ≤ maxStoredArtifactBytes) :=
  ⟨fun _ _ h => readsBack_persist h, fun _ hfile hdecode hvalid => readsBack_legacy_iff hfile hdecode hvalid⟩

/-! ## A file of the earlier version that is full -/

def sampleHex (c : Char) : String := String.ofList (List.replicate 64 c)

def sampleCandidate (sourceFiles : OrderedMap String String) (bundle css : String) : GenUiArtifactCandidate where
  schemaVersion := 1
  sourceRevision := 7
  entrypoint := "/App.tsx"
  sourceFiles := sourceFiles
  bundle := bundle
  css := css
  sourceMap := "\x7b\x7d"
  contentDigest := sampleHex 'a'
  compiler := ⟨"esbuild-wasm", "0.28.1"⟩
  diagnostics := []

/-- A file of the earlier version is the code of an envelope of version 1. -/
noncomputable def sampleEncodings (values : List StoredArtifactEnvelope) (sha256 : List UInt8 → String) :
    ArtifactEncodings where
  encode := (LineCodec.short values).encode
  fromSlice encoded := ((LineCodec.short values).decode encoded).map fun envelope =>
    ⟨some envelope.schemaVersion, envelope.schemaVersion ≠ 1, some envelope.candidate, some envelope⟩
  fromSlice_encode envelope _ := ⟨_, by rw [LineCodec.decode_encode, Option.map_some], rfl, rfl⟩
  sourceBytes _ _ _ := []
  sha256 := sha256

theorem validateCandidate_sample {values : List StoredArtifactEnvelope} {sha256 : List UInt8 → String}
    {sourceFiles : OrderedMap String String} {bundle css : String} {requireSource : Bool}
    (hfiles : validateSourceFiles (sampleCandidate sourceFiles bundle css) requireSource = .ok ())
    (hbundle : bundle.utf8ByteSize ≤ maxBundleBytes) (hcss : css.utf8ByteSize ≤ maxCssBytes)
    (hdigest : sha256 (utf8 bundle.toList ++ utf8 css.toList) = sampleHex 'a') :
    validateCandidate (sampleEncodings values sha256) (sampleCandidate sourceFiles bundle css) requireSource = .ok () := by
  have hmetadata : ¬((1 : Nat) ≠ 1 ∨ (7 : Nat) = 0) := by decide
  have hentrypoint : ¬validVirtualEntrypoint "/App.tsx" = false := by decide
  have hcompiler : ¬(("esbuild-wasm" : String) ≠ "esbuild-wasm" ∨ "0.28.1".isEmpty = true ∨ 64 < "0.28.1".utf8ByteSize) := by
    decide
  have houtput : ¬(maxBundleBytes < bundle.utf8ByteSize ∨ maxCssBytes < css.utf8ByteSize ∨
      maxSourceMapBytes < "\x7b\x7d".utf8ByteSize) := by
    have hmap : ¬maxSourceMapBytes < "\x7b\x7d".utf8ByteSize := by decide
    rw [not_or, not_or]
    exact ⟨Nat.not_lt.mpr hbundle, Nat.not_lt.mpr hcss, hmap⟩
  have hcontent : sampleHex 'a' = contentDigest (sampleEncodings values sha256) bundle css := hdigest.symm
  unfold validateCandidate
  simp only [ite_error_eq_ok, bind_eq_ok]
  exact ⟨hmetadata, hentrypoint, (), hfiles, hcompiler, houtput, (), rfl, not_not.mpr hcontent, trivial⟩

def legacyEnvelope (bundle : String) : StoredArtifactEnvelope := ⟨1, none, sampleCandidate .empty bundle ""⟩

@[irreducible] def fillerEnvelopes : List StoredArtifactEnvelope := List.replicate 4194270 ⟨0, none, sampleCandidate .empty "" ""⟩

/-- The file of the earlier version has some thirty bytes left, and the envelope is some fifty bytes longer. -/
noncomputable def fullEncodings (bundle : String) : ArtifactEncodings :=
  sampleEncodings ((fillerEnvelopes ++ [legacyEnvelope bundle]) ++
    (List.replicate 50 ⟨0, some "", sampleCandidate .empty "" ""⟩ ++ [⟨2, none, sampleCandidate .empty bundle ""⟩]))
    fun _ => sampleHex 'a'

theorem length_fillerEnvelopes : fillerEnvelopes.length = 4194270 := by
  unfold fillerEnvelopes
  exact List.length_replicate

theorem notMem_fillerEnvelopes {envelope : StoredArtifactEnvelope} (h : envelope.schemaVersion ≠ 0) :
    envelope ∉ fillerEnvelopes := by
  unfold fillerEnvelopes
  intro hmem
  exact h (congrArg StoredArtifactEnvelope.schemaVersion (List.eq_of_mem_replicate hmem))

/-- A file of the earlier version that is read, but is too large once it is migrated. -/
theorem full_file_unreadable {bundle : String} (hbundle : bundle.utf8ByteSize ≤ maxBundleBytes) (id : ArtifactId) :
    ∃ encoded, encoded.length ≤ maxStoredArtifactBytes ∧
      decodeStoredArtifact (fullEncodings bundle) encoded = .ok (sampleCandidate .empty bundle "", true) ∧
      validateCandidate (fullEncodings bundle) (sampleCandidate .empty bundle "") false = .ok () ∧
      ¬ReadsBack (fullEncodings bundle) (fun _ => some encoded) id (sampleCandidate .empty bundle "") := by
  have hdecode : decodeStoredArtifact (fullEncodings bundle) ((fullEncodings bundle).encode (legacyEnvelope bundle)) =
      .ok (sampleCandidate .empty bundle "", true) := by
    unfold decodeStoredArtifact fullEncodings sampleEncodings
    simp only [LineCodec.decode_encode, Option.map_some, okOr, bind, Except.bind]
    rfl
  have hvalid : validateCandidate (fullEncodings bundle) (sampleCandidate .empty bundle "") false = .ok () :=
    validateCandidate_sample rfl hbundle (Nat.zero_le _) rfl
  have hshort : ((fullEncodings bundle).encode (legacyEnvelope bundle)).length ≤ 4194271 := by
    have hmem : legacyEnvelope bundle ∈ fillerEnvelopes ++ [legacyEnvelope bundle] :=
      List.mem_append_right _ List.mem_cons_self
    refine (LineCodec.length_short_encode_le_left _ hmem).trans_eq ?_
    rw [List.length_append, length_fillerEnvelopes, List.length_singleton]
  have hlong : 4194321 < ((fullEncodings bundle).encode
      (storedEnvelope (fullEncodings bundle) (sampleCandidate .empty bundle ""))).length := by
    have hstored : storedEnvelope (fullEncodings bundle) (sampleCandidate .empty bundle "") =
        ⟨2, none, sampleCandidate .empty bundle ""⟩ := rfl
    have hbefore : (⟨2, none, sampleCandidate .empty bundle ""⟩ : StoredArtifactEnvelope) ∉
        (fillerEnvelopes ++ [legacyEnvelope bundle]) ++ List.replicate 50 ⟨0, some "", sampleCandidate .empty "" ""⟩ := by
      simp only [List.mem_append, List.mem_singleton, List.mem_replicate, not_or]
      refine ⟨⟨notMem_fillerEnvelopes (Nat.succ_ne_zero 1), fun hsame => ?_⟩, fun hsame => ?_⟩
      · have hversion : 2 = 1 := congrArg StoredArtifactEnvelope.schemaVersion hsame
        cases hversion
      · have hversion : 2 = 0 := congrArg StoredArtifactEnvelope.schemaVersion hsame.2
        cases hversion
    have hlength := LineCodec.lt_length_short_encode hbefore
      (List.mem_singleton_self (⟨2, none, sampleCandidate .empty bundle ""⟩ : StoredArtifactEnvelope))
    rw [List.length_append, List.length_append, length_fillerEnvelopes, List.length_singleton, List.length_replicate,
      List.append_assoc] at hlength
    rw [hstored]
    exact hlength
  refine ⟨_, hshort.trans (by decide), hdecode, hvalid, fun hreads => ?_⟩
  have hlength := ((readsBack_legacy_iff rfl hdecode hvalid).mp hreads).2
  exact absurd (hlong.trans_le hlength) (by decide)

/-- As many control characters, which JSON writes as six bytes each, as make the file that long. -/
@[irreducible] def fullBundle : String := String.ofList (List.replicate 699000 '\x01')

theorem utf8ByteSize_fullBundle : fullBundle.utf8ByteSize ≤ maxBundleBytes := by
  unfold fullBundle
  rw [utf8ByteSize_replicate]
  decide

theorem full_legacy_file_unreadable :
    ∃ encoded, encoded.length ≤ maxStoredArtifactBytes ∧
      decodeStoredArtifact (fullEncodings fullBundle) encoded = .ok (sampleCandidate .empty fullBundle "", true) ∧
      validateCandidate (fullEncodings fullBundle) (sampleCandidate .empty fullBundle "") false = .ok () ∧
      ¬ReadsBack (fullEncodings fullBundle) (fun _ => some encoded) ⟨5⟩ (sampleCandidate .empty fullBundle "") :=
  full_file_unreadable utf8ByteSize_fullBundle ⟨5⟩

/-! ## Reading a file that was rewritten -/

theorem utf8_append_inj {bundle css bundle' css' : String}
    (h : utf8 bundle.toList ++ utf8 css.toList = utf8 bundle'.toList ++ utf8 css'.toList) :
    bundle.utf8ByteSize = bundle'.utf8ByteSize ↔ bundle = bundle' ∧ css = css' := by
  have hsize (text : String) : text.utf8ByteSize = (utf8 text.toList).length := by
    rw [← utf8ByteSize_ofList, String.ofList_toList]
  have hinj {text text' : String} (hsame : utf8 text.toList = utf8 text'.toList) : text = text' := by
    have hchars := congrArg fromUtf8 hsame
    rw [fromUtf8_utf8, fromUtf8_utf8] at hchars
    exact String.toList_injective (Option.some.inj hchars)
  constructor
  · intro hlength
    rw [hsize, hsize] at hlength
    obtain ⟨hbundle, hcss⟩ := List.append_inj h hlength
    exact ⟨hinj hbundle, hinj hcss⟩
  · intro hsame
    rw [hsame.1]

/-- **Main result.** Whatever the file of an accepted artifact has become: if it is read, then as the bundle and the style
sheet that were accepted, just when its bundle is as long as the accepted one. -/
theorem read_intact_iff (E : ArtifactEncodings) {files before rewritten after : ArtifactFiles} {id : ArtifactId}
    {candidate stored : GenUiArtifactCandidate} {accepted : AcceptedGenUiArtifact} {encoded : List UInt8} {migrated : Bool}
    {content : StoredGenUiArtifact} (hpersist : (persist E id candidate).call before = (.ok accepted, files))
    (hfile : rewritten id = some encoded) (hstored : decodeStoredArtifact E encoded = .ok (stored, migrated))
    (hread : (read E accepted).call rewritten = (.ok content, after))
    (hcollision : contentDigest E candidate.bundle candidate.css = contentDigest E stored.bundle stored.css →
      utf8 candidate.bundle.toList ++ utf8 candidate.css.toList = utf8 stored.bundle.toList ++ utf8 stored.css.toList) :
    content.bundle = candidate.bundle ∧ content.css = candidate.css ↔
      stored.bundle.utf8ByteSize = candidate.bundle.utf8ByteSize := by
  obtain ⟨hvalid, -, rfl, -⟩ := call_persist_eq_ok.mp hpersist
  obtain ⟨encoded', stored', migrated', hfile', -, hdecode, hchecked, hmetadata, rfl, -⟩ := call_read_eq_ok.mp hread
  obtain rfl := Option.some.inj (hfile.symm.trans hfile')
  obtain ⟨rfl, rfl⟩ := Prod.mk.inj (Except.ok.inj (hstored.symm.trans hdecode))
  have hdigest : candidate.contentDigest = stored.contentDigest :=
    (congrArg AcceptedGenUiArtifact.contentDigest hmetadata).symm
  have hbytes := hcollision (by
    rw [← (validateCandidate_schemaVersion hvalid).2, hdigest, (validateCandidate_schemaVersion hchecked).2])
  rw [eq_comm (a := stored.bundle.utf8ByteSize), utf8_append_inj hbytes]
  show stored.bundle = candidate.bundle ∧ stored.css = candidate.css ↔ _
  rw [eq_comm (a := stored.bundle), eq_comm (a := stored.css)]

/-! ## A boundary that was moved -/

def movedSource : OrderedMap String String := .singleton "/App.tsx" "export default () => null;"

def acceptedCandidate : GenUiArtifactCandidate := sampleCandidate movedSource "ab" "c"

/-- The same bytes, but the style sheet begins one byte earlier. -/
def movedCandidate : GenUiArtifactCandidate := sampleCandidate movedSource "a" "bc"

/-- No other bytes have the digest of the artifact. -/
def movedDigest (bytes : List UInt8) : String :=
  if bytes = utf8 "abc".toList then sampleHex 'a' else sampleHex 'b'

noncomputable def movedEncodings : ArtifactEncodings :=
  sampleEncodings [⟨2, some (sampleHex 'b'), acceptedCandidate⟩, ⟨2, some (sampleHex 'b'), movedCandidate⟩] movedDigest

theorem movedDigest_nil : movedDigest [] = sampleHex 'b' := by decide

theorem movedDigest_abc :
    movedDigest (utf8 "ab".toList ++ utf8 "c".toList) = sampleHex 'a' ∧
      movedDigest (utf8 "a".toList ++ utf8 "bc".toList) = sampleHex 'a' := by decide

theorem storedEnvelope_moved {bundle css : String} :
    storedEnvelope movedEncodings (sampleCandidate movedSource bundle css) =
      ⟨2, some (sampleHex 'b'), sampleCandidate movedSource bundle css⟩ := by
  show (⟨2, some (movedDigest []), _⟩ : StoredArtifactEnvelope) = _
  rw [movedDigest_nil]

theorem length_encode_moved :
    (movedEncodings.encode (storedEnvelope movedEncodings acceptedCandidate)).length ≤ maxStoredArtifactBytes ∧
      (movedEncodings.encode (storedEnvelope movedEncodings movedCandidate)).length ≤ maxStoredArtifactBytes := by
  unfold acceptedCandidate movedCandidate
  rw [storedEnvelope_moved, storedEnvelope_moved]
  constructor
  · exact (LineCodec.length_short_encode_le _ List.mem_cons_self).trans (by decide)
  · exact (LineCodec.length_short_encode_le _ (List.mem_cons_of_mem _ List.mem_cons_self)).trans (by decide)

theorem validateSourceFiles_moved (bundle css : String) (requireSource : Bool) :
    validateSourceFiles (sampleCandidate movedSource bundle css) requireSource = .ok () := by
  have hsize : ¬(maxGenuiSourceFiles < movedSource.size ∨ "/App.tsx" ∉ movedSource.keys) := by decide
  have hpaths : ¬∃ path ∈ movedSource.keys, validVirtualSourcePath path = false := by decide
  have hbytes : ¬maxGenuiSourceBytes <
      (movedSource.entries.map fun file => file.1.utf8ByteSize + file.2.utf8ByteSize).sum := by decide
  exact (if_neg (List.cons_ne_nil _ _)).trans ((if_neg hsize).trans ((if_neg hpaths).trans (if_neg hbytes)))

theorem persist_accepted (id : ArtifactId) (files : ArtifactFiles) :
    (persist movedEncodings id acceptedCandidate).call files = (.ok (metadataOf id acceptedCandidate),
      Function.update files id (some (movedEncodings.encode (storedEnvelope movedEncodings acceptedCandidate)))) :=
  call_persist_eq_ok.mpr ⟨validateCandidate_sample (validateSourceFiles_moved _ _ _) (by decide) (by decide)
    movedDigest_abc.1, length_encode_moved.1, rfl, rfl⟩

theorem decode_moved :
    decodeStoredArtifact movedEncodings (movedEncodings.encode (storedEnvelope movedEncodings movedCandidate)) =
      .ok (movedCandidate, false) := decodeStoredArtifact_encode rfl

theorem read_moved (id : ArtifactId) :
    (read movedEncodings (metadataOf id acceptedCandidate)).call
        (fun _ => some (movedEncodings.encode (storedEnvelope movedEncodings movedCandidate))) =
      (.ok (contentOf (metadataOf id acceptedCandidate) movedCandidate),
        fun _ => some (movedEncodings.encode (storedEnvelope movedEncodings movedCandidate))) :=
  call_read_stored rfl length_encode_moved.2 (validateCandidate_sample (validateSourceFiles_moved _ _ _) (by decide)
    (by decide) movedDigest_abc.2)

/-- The file is read, as another bundle and another style sheet than were accepted. -/
theorem moved_boundary_is_read :
    ∃ accepted files rewritten content,
      (persist movedEncodings ⟨5⟩ acceptedCandidate).call (fun _ => none) = (.ok accepted, files) ∧
      (read movedEncodings accepted).call rewritten = (.ok content, rewritten) ∧
      content.bundle ≠ acceptedCandidate.bundle ∧ content.css ≠ acceptedCandidate.css :=
  ⟨_, _, _, _, persist_accepted ⟨5⟩ _, read_moved ⟨5⟩, by decide, by decide⟩

theorem read_intact_iff_moved :
    (contentOf (metadataOf ⟨5⟩ acceptedCandidate) movedCandidate).bundle = acceptedCandidate.bundle ∧
        (contentOf (metadataOf ⟨5⟩ acceptedCandidate) movedCandidate).css = acceptedCandidate.css ↔
      movedCandidate.bundle.utf8ByteSize = acceptedCandidate.bundle.utf8ByteSize :=
  read_intact_iff movedEncodings (persist_accepted ⟨5⟩ fun _ => none) rfl decode_moved (read_moved ⟨5⟩)
    fun _ => by decide

theorem artifact_reads_back_iff_accepted :
    ReadsBack movedEncodings (Function.update (fun _ => none) ⟨5⟩
        (some (movedEncodings.encode (storedEnvelope movedEncodings acceptedCandidate)))) ⟨5⟩ acceptedCandidate :=
  ((artifact_reads_back_iff movedEncodings (fun _ => none) ⟨5⟩ acceptedCandidate).1 _ _ (persist_accepted ⟨5⟩ _)).2

end HyperTerm.Daemon.ArtifactStore
