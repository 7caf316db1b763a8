import HyperTerm.Workbench.DebugCapsule

/-!
# The digests of a bug capsule

A digest of a capsule is right for the workbench if `JSON.stringify` writes what `serde_json` had written. It does not of
every capsule: JavaScript lists array indices before the other keys of an object, and writes a number as a double.

* `Rewritten` : the capsules that are written again as they were;
* `verified_iff` : the workbench accepts just those whose integers are safe.
-/

namespace HyperTerm.Workbench
open HyperTerm.Lib HyperTerm.Protocol HyperTerm.Daemon HyperTerm.Daemon.BugCapsule

variable {E : CapsuleEncodings} {capsule : GenUiBugCapsule}

/-! ## The digests -/

/-- The document whose digest a capsule carries. -/
def unsignedValue (capsule : GenUiBugCapsule) : Value := { capsule with capsuleDigest := none : GenUiBugCapsule }.toValue

theorem hexDigest_eq (sha256 : List UInt8 → List UInt8) (chars : List Char) :
    hexDigest sha256 chars = some (.string (.ofText (String.ofList (encodeHex (sha256 (utf8 chars)))))) := by
  unfold hexDigest JsString.ofText
  rw [flatMap_hexByte, String.toList_ofList]

theorem strictEquals_hexDigest {sha256 : List UInt8 → List UInt8} {chars : List Char} {bytes : List UInt8} :
    strictEquals (hexDigest sha256 chars) (some (.string (.ofText (String.ofList (encodeHex (sha256 bytes)))))) = true ↔
      sha256 (utf8 chars) = sha256 bytes := by
  rw [hexDigest_eq]
  show decide (JsString.ofText _ = JsString.ofText _) = true ↔ _
  rw [decide_eq_true_iff]
  constructor
  · intro h
    have htext := congrArg String.toList (ofText_injective h)
    rw [String.toList_ofList, String.toList_ofList] at htext
    exact encodeHex_injective htext
  · intro h
    rw [h]

theorem unsignedCapsule_exported (R : Reprinting) (h : Exported E capsule) :
    unsignedCapsule (.parsed R.reprint capsule.toValue) = .parsed R.reprint (unsignedValue capsule) := by
  have hkeys : (exportedMembers capsule).map Prod.fst = ["schema_version", "mode", "artifact", "accepted_source",
      "accepted_source_digest", "outputs", "editor", "runtime", "runtime_truncated", "omitted_runtime_events",
      "environment", "inventory", "reproduction"] := rfl
  have horder : KeysInOrder ((exportedMembers capsule).map Prod.fst) := by
    rw [hkeys]
    exact NameKeys.keysInOrder (by repeat' constructor)
  have hother : ∀ key ∈ (exportedMembers capsule).map Prod.fst, key ≠ "capsule_digest" := by
    rw [hkeys]
    decide
  unfold unsignedValue
  rw [toValue_exported h, toValue_unsigned h, parsed_object (keysInOrder_signed _), parsed_object horder]
  rw [unsignedCapsule]
  unfold signedMembers
  rw [parsedMembers_eq_map, parsedMembers_eq_map, List.map_append, List.filter_append, List.filter_eq_self.mpr,
    List.map_singleton, List.filter_cons_of_neg, List.filter_nil, List.append_nil]
  · rw [decide_eq_true_iff]
    dsimp only
    exact not_not_intro rfl
  · intro member hmember
    obtain ⟨source, hsource, rfl⟩ := List.mem_map.mp hmember
    exact decide_eq_true fun hsame => hother source.1 (List.mem_map_of_mem hsource) (ofText_injective hsame)

/-- The digest of a capsule is right when what is written has the digest of what Rust digested. -/
theorem digestUnsigned_exported (R : Reprinting) (J : WritesJson E) (h : Exported E capsule) :
    strictEquals (digestUnsignedBugCapsule J.digest (.parsed R.reprint capsule.toValue))
        ((JsValue.parsed R.reprint capsule.toValue).get "capsule_digest") = true ↔
      J.digest (utf8 (unsignedCapsule (.parsed R.reprint capsule.toValue)).stringify) =
        J.digest (E.capsule { capsule with capsuleDigest := none }) := by
  have hdigest : unsignedDigest E capsule =
      String.ofList (encodeHex (J.digest (E.capsule { capsule with capsuleDigest := none }))) := J.sha256_eq _
  unfold digestUnsignedBugCapsule
  rw [(digests_exported R h).2, hdigest, strictEquals_hexDigest]

theorem digestAcceptedSource_exported (R : Reprinting) (J : WritesJson E) (h : Exported E capsule) :
    strictEquals (digestAcceptedSource J.digest (.parsed R.reprint capsule.toValue))
        ((JsValue.parsed R.reprint capsule.toValue).get "accepted_source_digest") = true ↔
      J.digest (utf8 (acceptedSourceIdentityOf (.parsed R.reprint capsule.toValue)).stringify) =
        J.digest (E.identity (acceptedSourceIdentity capsule)) := by
  have hdigest : acceptedSourceDigest E capsule =
      String.ofList (encodeHex (J.digest (E.identity (acceptedSourceIdentity capsule)))) := J.sha256_eq _
  unfold digestAcceptedSource
  rw [(digests_exported R h).1, hdigest, strictEquals_hexDigest]

theorem acceptedSourceIdentityOf_exported (R : Reprinting) (h : Exported E capsule) :
    acceptedSourceIdentityOf (.parsed R.reprint capsule.toValue) =
      .parsed R.reprint (acceptedSourceIdentity capsule).toValue := by
  have hkeys : KeysInOrder ["schema_version", "source_revision", "entrypoint", "files"] :=
    NameKeys.keysInOrder (by repeat' constructor)
  have hartifact : (JsValue.parsed R.reprint capsule.toValue).get "artifact" =
      some (.parsed R.reprint (artifactValue capsule.artifact)) := get_exported R h _
  have hfiles : (JsValue.parsed R.reprint capsule.toValue).get "accepted_source" =
      some (.parsed R.reprint (.array (capsule.acceptedSource.map GenUiBugCapsuleFile.toValue))) := get_exported R h _
  have hone : JsValue.parsed R.reprint (RuntimeTrace.u64Value 1) = .number (natAtom 1) :=
    congrArg JsValue.number (R.exact (Fin.ofNat (2 ^ 64) 1) (by decide))
  obtain ⟨-, hrevision, hentrypoint, -⟩ := property_artifact R capsule.artifact
  unfold acceptedSourceIdentityOf AcceptedSourceIdentity.toValue
  rw [hartifact, hfiles, hrevision, hentrypoint, parsed_object (by exact hkeys)]
  show _ = JsValue.object [(_, .parsed R.reprint (RuntimeTrace.u64Value 1)), _, _, _]
  rw [hone]
  rfl

/-! ## What is written again -/

section

variable (reprint : Number → JsNumber)

/-- A `u64` is written as it was. -/
def Reprinted (n : Nat) : Prop :=
  reprint (.unsigned (Fin.ofNat (2 ^ 64) n)) = (Number.unsigned (Fin.ofNat (2 ^ 64) n)).atom

/-- The integers of a capsule, and the payloads in it, are written as they were. -/
structure Rewritten (capsule : GenUiBugCapsule) : Prop where
  artifact : Reprinted reprint capsule.artifact.sourceRevision
  acceptedSource : ∀ file ∈ capsule.acceptedSource, Reprinted reprint file.byteCount
  outputs : Reprinted reprint capsule.outputs.bundleBytes ∧ Reprinted reprint capsule.outputs.cssBytes ∧
    Reprinted reprint capsule.outputs.sourceMapBytes
  editor : Reprinted reprint capsule.editor.baseSourceRevision ∧ Reprinted reprint capsule.editor.revision
  files : ∀ file ∈ capsule.editor.files, Reprinted reprint file.byteCount
  events : ∀ event ∈ capsule.runtime.events, Reprinted reprint event.schemaVersion ∧
    Reprinted reprint event.eventSequence ∧ Reprinted reprint event.sourceRevision ∧
    Reprinted reprint event.clientSequence ∧ Reprinted reprint event.recordedAtMs
  payloads : ∀ event ∈ capsule.runtime.events, Reencoded reprint event.payload
  omittedRuntimeEvents : Reprinted reprint capsule.omittedRuntimeEvents
  inventory : ∀ entry ∈ capsule.inventory, Reprinted reprint entry.itemCount ∧ Reprinted reprint entry.byteCount

end

variable {reprint : Number → JsNumber}

theorem reencoded_u64Value (n : Nat) : Reencoded reprint (RuntimeTrace.u64Value n) ↔ Reprinted reprint n :=
  reencoded_number_iff

/-- Of an object whose keys are in order, the values have to be written as they were. -/
theorem reencoded_members_iff {members : List (String × Value)} (h : KeysInOrder (members.map Prod.fst)) :
    Reencoded reprint (.object members) ↔ ∀ v ∈ members.map Prod.snd, Reencoded reprint v := by
  rw [reencoded_object_iff, List.forall_mem_map]
  exact and_iff_right h

theorem reencoded_artifact (artifact : AcceptedGenUiArtifact) :
    Reencoded reprint (artifactValue artifact) ↔ Reprinted reprint artifact.sourceRevision := by
  have hkeys : KeysInOrder ["artifact_id", "source_revision", "entrypoint", "content_digest", "compiler"] :=
    NameKeys.keysInOrder (by repeat' constructor)
  have hcompiler : KeysInOrder ["name", "version"] :=
    NameKeys.keysInOrder (by repeat' constructor)
  have hnamed : Reencoded reprint (.object [("name", .string artifact.compiler.name),
      ("version", .string artifact.compiler.version)]) := by
    rw [reencoded_members_iff (by exact hcompiler)]
    simp [reencoded_string_iff]
  unfold artifactValue
  rw [reencoded_members_iff (by exact hkeys)]
  simp [reencoded_string_iff, reencoded_u64Value, hnamed]

theorem reencoded_file (file : GenUiBugCapsuleFile) :
    Reencoded reprint file.toValue ↔ Reprinted reprint file.byteCount := by
  have hkeys : KeysInOrder ["path", "byte_count", "content_digest", "modified"] :=
    NameKeys.keysInOrder (by repeat' constructor)
  unfold GenUiBugCapsuleFile.toValue
  rw [reencoded_members_iff (by exact hkeys)]
  simp [reencoded_string_iff, reencoded_bool_iff, reencoded_u64Value]

theorem reencoded_files (files : List GenUiBugCapsuleFile) :
    Reencoded reprint (.array (files.map GenUiBugCapsuleFile.toValue)) ↔
      ∀ file ∈ files, Reprinted reprint file.byteCount := by
  rw [reencoded_array_iff, List.forall_mem_map]
  exact forall₂_congr fun file _ => reencoded_file file

theorem reencoded_outputs (outputs : GenUiBugCapsuleOutputs) :
    Reencoded reprint outputs.toValue ↔ Reprinted reprint outputs.bundleBytes ∧ Reprinted reprint outputs.cssBytes ∧
      Reprinted reprint outputs.sourceMapBytes := by
  have hkeys : KeysInOrder ["bundle_bytes", "bundle_digest", "css_bytes", "css_digest", "source_map_bytes",
      "source_map_digest"] :=
    NameKeys.keysInOrder (by repeat' constructor)
  unfold GenUiBugCapsuleOutputs.toValue
  rw [reencoded_members_iff (by exact hkeys)]
  simp [reencoded_string_iff, reencoded_u64Value]

theorem reencoded_editor (editor : GenUiBugCapsuleEditorState) :
    Reencoded reprint editor.toValue ↔
      (Reprinted reprint editor.baseSourceRevision ∧ Reprinted reprint editor.revision) ∧
        ∀ file ∈ editor.files, Reprinted reprint file.byteCount := by
  have hkeys : KeysInOrder ["base_source_revision", "revision", "state_digest", "active_path", "view", "files"] :=
    NameKeys.keysInOrder (by repeat' constructor)
  unfold GenUiBugCapsuleEditorState.toValue
  rw [reencoded_members_iff (by exact hkeys)]
  simp [-List.mem_map, reencoded_string_iff, reencoded_u64Value, reencoded_files, and_assoc]

theorem reencoded_event (event : RuntimeTrace.GenUiRuntimeTraceEvent) :
    Reencoded reprint event.toValue ↔
      (Reprinted reprint event.schemaVersion ∧ Reprinted reprint event.eventSequence ∧
        Reprinted reprint event.sourceRevision ∧ Reprinted reprint event.clientSequence ∧
        Reprinted reprint event.recordedAtMs) ∧ Reencoded reprint event.payload := by
  have hkeys : KeysInOrder ["schema_version", "event_sequence", "artifact_id", "source_revision", "stream_id",
      "client_sequence", "kind", "name", "payload", "payload_digest", "redacted", "recorded_at_ms"] :=
    NameKeys.keysInOrder (by repeat' constructor)
  unfold RuntimeTrace.GenUiRuntimeTraceEvent.toValue
  rw [reencoded_members_iff (by exact hkeys)]
  simp only [List.map_cons, List.map_nil, List.forall_mem_cons, List.not_mem_nil, false_imp_iff, implies_true,
    reencoded_string_iff, reencoded_bool_iff, reencoded_u64Value, true_and, and_true]
  constructor
  · intro h
    obtain ⟨hschema, hsequence, hrevision, hclient, hpayload, hrecorded⟩ := h
    exact ⟨⟨hschema, hsequence, hrevision, hclient, hrecorded⟩, hpayload⟩
  · intro h
    obtain ⟨⟨hschema, hsequence, hrevision, hclient, hrecorded⟩, hpayload⟩ := h
    exact ⟨hschema, hsequence, hrevision, hclient, hpayload, hrecorded⟩

theorem reencoded_entry (entry : GenUiBugCapsuleInventoryEntry) :
    Reencoded reprint entry.toValue ↔ Reprinted reprint entry.itemCount ∧ Reprinted reprint entry.byteCount := by
  have hkeys : KeysInOrder ["category", "inclusion", "item_count", "byte_count", "reason"] :=
    NameKeys.keysInOrder (by repeat' constructor)
  unfold GenUiBugCapsuleInventoryEntry.toValue
  rw [reencoded_members_iff (by exact hkeys)]
  simp [reencoded_string_iff, reencoded_u64Value]

/-- Whichever of its members are left out. -/
theorem reencoded_environment (environment : GenUiBugCapsuleEnvironment) : Reencoded reprint environment.toValue := by
  have hkeys : KeysInOrder (["hyper_term_version", "os", "architecture"] ++ (["deno_runtime_version"] ++
      (["deno_executable_digest"] ++ (["compiler_script_digest"] ++ ["compiler_wasm_digest"])))) :=
    NameKeys.keysInOrder (by repeat' constructor)
  have hleft (key : String) (text : Option String) : ((optionalMember key text).map Prod.fst).Sublist [key] := by
    cases text with
    | none => exact List.nil_sublist _
    | some text => exact List.Sublist.refl _
  refine reencoded_object_iff.mpr ⟨?_, ?_⟩
  · rw [List.map_append, List.map_append, List.map_append, List.map_append]
    refine List.Pairwise.sublist ?_ hkeys
    exact (List.Sublist.refl _).append ((hleft _ _).append ((hleft _ _).append ((hleft _ _).append (hleft _ _))))
  · intro member hmember
    simp only [optionalMember, List.mem_append, List.mem_map, List.mem_cons, List.not_mem_nil, or_false] at hmember
    rcases hmember with (rfl | rfl | rfl) | ⟨_, -, rfl⟩ | ⟨_, -, rfl⟩ | ⟨_, -, rfl⟩ | ⟨_, -, rfl⟩ <;> exact .string _

theorem reencoded_identity (R : Reprinting) (h : Rewritten R.reprint capsule) :
    Reencoded R.reprint (acceptedSourceIdentity capsule).toValue := by
  have hkeys : KeysInOrder ["schema_version", "source_revision", "entrypoint", "files"] :=
    NameKeys.keysInOrder (by repeat' constructor)
  have hone : Reprinted R.reprint 1 := R.exact (Fin.ofNat (2 ^ 64) 1) (by decide)
  have hfiles := (reencoded_files capsule.acceptedSource).mpr h.acceptedSource
  unfold AcceptedSourceIdentity.toValue acceptedSourceIdentity
  rw [reencoded_members_iff (by exact hkeys)]
  simp only [List.map_cons, List.map_nil, List.forall_mem_cons, List.not_mem_nil, false_imp_iff, implies_true,
    reencoded_string_iff, reencoded_u64Value, true_and, and_true]
  exact ⟨hone, h.artifact, hfiles⟩

/-- What Rust digested is written again just when the integers of the capsule and its payloads are. -/
theorem reencoded_unsigned (R : Reprinting) (h : Exported E capsule) :
    Reencoded R.reprint (unsignedValue capsule) ↔ Rewritten R.reprint capsule := by
  have hkeys : KeysInOrder ["schema_version", "mode", "artifact", "accepted_source", "accepted_source_digest", "outputs",
      "editor", "runtime", "runtime_truncated", "omitted_runtime_events", "environment", "inventory",
      "reproduction"] :=
    NameKeys.keysInOrder (by repeat' constructor)
  have hruntime : KeysInOrder ["artifact_id", "source_revision", "projection_digest", "events"] :=
    NameKeys.keysInOrder (by repeat' constructor)
  have htwo : Reprinted R.reprint 2 := R.exact (Fin.ofNat (2 ^ 64) 2) (by decide)
  have hsteps : Reencoded R.reprint (.array (capsule.reproduction.map Value.string)) :=
    reencoded_array_iff.mpr (List.forall_mem_map.mpr fun step _ => .string step)
  have hentries : Reencoded R.reprint (.array (capsule.inventory.map GenUiBugCapsuleInventoryEntry.toValue)) ↔
      ∀ entry ∈ capsule.inventory, Reprinted R.reprint entry.itemCount ∧ Reprinted R.reprint entry.byteCount := by
    rw [reencoded_array_iff, List.forall_mem_map]
    exact forall₂_congr fun entry _ => reencoded_entry entry
  have hevents : Reencoded R.reprint capsule.runtime.toValue ↔
      Reprinted R.reprint capsule.artifact.sourceRevision ∧
        ∀ event ∈ capsule.runtime.events, Reencoded R.reprint event.toValue := by
    unfold RuntimeTrace.GenUiRuntimeTraceProjection.toValue
    rw [reencoded_members_iff (by exact hruntime), ← h.sourceRevision]
    simp only [List.map_cons, List.map_nil, List.forall_mem_cons, List.not_mem_nil, false_imp_iff, implies_true,
      reencoded_string_iff, reencoded_u64Value, reencoded_array_iff, List.forall_mem_map, true_and, and_true]
  unfold unsignedValue
  rw [toValue_unsigned h]
  unfold exportedMembers
  rw [reencoded_members_iff (by exact hkeys), h.schemaVersion]
  simp only [List.map_cons, List.map_nil, List.forall_mem_cons, List.not_mem_nil, false_imp_iff, implies_true,
    reencoded_string_iff, reencoded_bool_iff, reencoded_u64Value, reencoded_artifact, reencoded_files, reencoded_outputs,
    reencoded_editor, hevents, reencoded_event, hentries, true_and, and_true]
  constructor
  · intro hall
    obtain ⟨-, hartifact, hsource, houtputs, ⟨heditor, hfiles⟩, ⟨-, hevents⟩, homitted, -, hinventory, -⟩ := hall
    exact ⟨hartifact, hsource, houtputs, heditor, hfiles, fun event hevent => (hevents event hevent).1,
      fun event hevent => (hevents event hevent).2, homitted, hinventory⟩
  · intro hall
    exact ⟨htwo, hall.artifact, hall.acceptedSource, hall.outputs, ⟨hall.editor, hall.files⟩,
      ⟨hall.artifact, fun event hevent => ⟨hall.events event hevent, hall.payloads event hevent⟩⟩,
      hall.omittedRuntimeEvents, reencoded_environment _, hall.inventory, hsteps⟩

/-! ## Capsules that are accepted -/

/-- What an exported capsule is still refused for. -/
theorem decodeAndVerify_exported (R : Reprinting) (J : WritesJson E) (h : Exported E capsule)
    (hlength : (E.capsule capsule).length ≤ maxBugCapsuleBytes) {context : Option BugCapsuleContext}
    (hcontext : InContext R capsule context) :
    (∃ accepted, decodeAndVerifyBugCapsule J.digest R.reprint capsule.toValue context = .ok accepted) ↔
      SafeCounts capsule ∧
        J.digest (utf8 (unsignedCapsule (.parsed R.reprint capsule.toValue)).stringify) =
          J.digest (E.capsule { capsule with capsuleDigest := none }) ∧
        J.digest (utf8 (acceptedSourceIdentityOf (.parsed R.reprint capsule.toValue)).stringify) =
          J.digest (E.identity (acceptedSourceIdentity capsule)) := by
  have hsize : ¬ maxCapsuleBytes < (utf8 capsule.toValue.compact).length := by
    rw [← J.capsule_eq]
    exact Nat.not_lt_of_le hlength
  have herror : ¬ ∃ _ : JsValue, False := fun hok => hok.elim fun _ hfalse => hfalse
  rw [← validCapsule_exported R h hcontext, ← digestUnsigned_exported R J h, ← digestAcceptedSource_exported R J h]
  unfold decodeAndVerifyBugCapsule
  dsimp only
  rw [if_neg hsize, schemaVersion_exported R h, strictEquals_one_two.2]
  split_ifs with hvalid hintegrity hsource
  · exact iff_of_false herror fun hall => by rw [hvalid] at hall; cases hall.1
  · exact iff_of_false herror fun hall => by rw [hintegrity] at hall; cases hall.2.1
  · exact iff_of_false herror fun hall => by rw [hsource.2] at hall; cases hall.2.2
  · refine iff_of_true ⟨_, rfl⟩ ⟨Bool.not_eq_false _ ▸ hvalid, Bool.not_eq_false _ ▸ hintegrity, ?_⟩
    by_contra hrefused
    exact hsource ⟨rfl, Bool.eq_false_iff.mpr hrefused⟩

/-- The workbench accepts a capsule, having written what Rust digested. -/
structure Verified (R : Reprinting) (J : WritesJson E) (capsule : GenUiBugCapsule)
    (context : Option BugCapsuleContext) : Prop where
  accepted : ∃ accepted, decodeAndVerifyBugCapsule J.digest R.reprint capsule.toValue context = .ok accepted
  unsigned : utf8 (unsignedCapsule (.parsed R.reprint capsule.toValue)).stringify =
    E.capsule { capsule with capsuleDigest := none }
  identity : utf8 (acceptedSourceIdentityOf (.parsed R.reprint capsule.toValue)).stringify =
    E.identity (acceptedSourceIdentity capsule)

section

variable (R : Reprinting) (J : WritesJson E) (h : Exported E capsule) {context : Option BugCapsuleContext}

include J h

/-- The bytes that Rust digested are written just when everything is written as it was. -/
theorem unsigned_exported :
    utf8 (unsignedCapsule (.parsed R.reprint capsule.toValue)).stringify =
        E.capsule { capsule with capsuleDigest := none } ↔ Rewritten R.reprint capsule := by
  rw [J.capsule_eq, unsignedCapsule_exported R h, utf8_injective.eq_iff]
  exact (stringify_parsed_iff _).trans (reencoded_unsigned R h)

theorem identity_exported (hrewritten : Rewritten R.reprint capsule) :
    utf8 (acceptedSourceIdentityOf (.parsed R.reprint capsule.toValue)).stringify =
      E.identity (acceptedSourceIdentity capsule) := by
  rw [J.identity_eq, acceptedSourceIdentityOf_exported R h, (stringify_parsed_iff _).mpr (reencoded_identity R hrewritten)]

theorem verified_exported (hlength : (E.capsule capsule).length ≤ maxBugCapsuleBytes)
    (hcontext : InContext R capsule context) :
    Verified R J capsule context ↔ SafeCounts capsule ∧ Rewritten R.reprint capsule := by
  have haccepted := decodeAndVerify_exported R J h hlength hcontext
  constructor
  · intro hverified
    exact ⟨(haccepted.mp hverified.accepted).1, (unsigned_exported R J h).mp hverified.unsigned⟩
  · rintro ⟨hcounts, hrewritten⟩
    have hunsigned := (unsigned_exported R J h).mpr hrewritten
    have hidentity := identity_exported R J h hrewritten
    exact ⟨haccepted.mpr ⟨hcounts, congrArg J.digest hunsigned, congrArg J.digest hidentity⟩, hunsigned, hidentity⟩

theorem accepted_exported (hlength : (E.capsule capsule).length ≤ maxBugCapsuleBytes)
    (hcontext : InContext R capsule context)
    (hcollision : NoCollision J.digest (utf8 (unsignedCapsule (.parsed R.reprint capsule.toValue)).stringify)
      (E.capsule { capsule with capsuleDigest := none })) :
    (∃ accepted, decodeAndVerifyBugCapsule J.digest R.reprint capsule.toValue context = .ok accepted) ↔
      SafeCounts capsule ∧ Rewritten R.reprint capsule := by
  constructor
  · intro haccepted
    obtain ⟨hcounts, hdigest, -⟩ := (decodeAndVerify_exported R J h hlength hcontext).mp haccepted
    exact ⟨hcounts, (unsigned_exported R J h).mp (hcollision hdigest)⟩
  · exact fun hall => ((verified_exported R J h hlength hcontext).mpr hall).accepted

end

/-- A draft depends on the digests of the texts in it, on the length of its events and on the digest of the replay. -/
theorem draftCapsule_congr {E' : CapsuleEncodings} {artifact : ArtifactStore.StoredGenUiArtifact}
    {editor : EditorStore.ArtifactEditorCheckpoint} {runtime : RuntimeTrace.GenUiRuntimeTraceProjection}
    {environment : GenUiBugCapsuleEnvironment} (hevents : E.event = E'.event)
    (htexts : ∀ text ∈ [artifact.bundle, artifact.css, artifact.sourceMap] ++
        (artifact.sourceFiles.entries ++ editor.files.entries).map Prod.snd,
      sha256Bytes E (utf8 text.toList) = sha256Bytes E' (utf8 text.toList))
    (hreplay : ∀ events, RuntimeTrace.replayProjectionDigest E.traces runtime.sourceRevision events =
      RuntimeTrace.replayProjectionDigest E'.traces runtime.sourceRevision events) :
    draftCapsule E artifact editor runtime environment = draftCapsule E' artifact editor runtime environment := by
  have hfile (modified : Bool) (file : String × String)
      (hmem : file ∈ artifact.sourceFiles.entries ++ editor.files.entries) :
      capsuleFile E modified file = capsuleFile E' modified file := by
    unfold capsuleFile
    rw [htexts file.2 (List.mem_append_right _ (List.mem_map_of_mem hmem))]
  have haccepted : acceptedFiles E artifact = acceptedFiles E' artifact :=
    List.map_congr_left fun file hmem => hfile _ file (List.mem_append_left _ hmem)
  have hedited : editorFiles E artifact editor = editorFiles E' artifact editor :=
    List.map_congr_left fun file hmem => hfile _ file (List.mem_append_right _ hmem)
  have houtputs : capsuleOutputs E artifact = capsuleOutputs E' artifact := by
    unfold capsuleOutputs
    rw [htexts artifact.bundle (by simp), htexts artifact.css (by simp), htexts artifact.sourceMap (by simp)]
  have hbounded (bytes : Nat) (events : List RuntimeTrace.GenUiRuntimeTraceEvent) :
      boundedEvents E bytes events = boundedEvents E' bytes events := by
    induction events generalizing bytes with
    | nil => rfl
    | cons event events ih =>
        rw [boundedEvents, boundedEvents, hevents]
        dsimp only
        rw [ih]
  unfold draftCapsule boundedRuntimeEvents
  dsimp only
  rw [haccepted, hedited, houtputs, hbounded, hreplay]

section

variable (payload : Value)

def payloadEvent : RuntimeTrace.GenUiRuntimeTraceEvent where
  schemaVersion := RuntimeTrace.runtimeTraceSchemaVersion
  eventSequence := 1
  artifactId := ⟨2⟩
  sourceRevision := 7
  streamId := 4
  clientSequence := 1
  kind := .action
  name := "event"
  payload := payload
  payloadDigest := ArtifactStore.sampleHex 'a'
  redacted := false
  recordedAtMs := 0

def payloadStored : RuntimeTrace.StoredRuntimeTraceEvent where
  storageSchemaVersion := RuntimeTrace.runtimeTraceStorageSchemaVersion
  taskId := ⟨1⟩
  eventDigest := some (ArtifactStore.sampleHex 'a')
  event := payloadEvent payload

def payloadRuntime : RuntimeTrace.GenUiRuntimeTraceProjection :=
  ⟨⟨2⟩, 7, ArtifactStore.sampleHex 'a', [payloadEvent payload]⟩

/-- The capsule before it is signed, with the same digest everywhere. -/
noncomputable def payloadUnsigned : GenUiBugCapsule :=
  { draftCapsule (shortCapsules []) (sampleArtifact (.singleton "/App.tsx" "")) (sampleEditor (.singleton "/App.tsx" ""))
      (payloadRuntime payload) sampleEnvironment with
    acceptedSourceDigest := ArtifactStore.sampleHex 'a' }

/-- A digest that tells the text of this capsule from all others. -/
noncomputable def payloadDigest (bytes : List UInt8) : List UInt8 :=
  List.replicate 32 (if bytes = utf8 (payloadUnsigned payload).toValue.compact then 187 else 170)

noncomputable def payloadTraces : RuntimeTrace.TraceEncodings where
  lines := .short [payloadStored payload]
  traceBytes _ := []
  storedBytes _ _ := []
  projectionBytes _ _ := []
  sha256 bytes := String.ofList (encodeHex (payloadDigest payload bytes))
  isSha256_sha256 _ := isSha256_encodeHex List.length_replicate

noncomputable def payloadStores : Stores where
  artifacts := ArtifactStore.sampleEncodings
    [⟨ArtifactStore.storedArtifactSchemaVersion, some (ArtifactStore.sampleHex 'a'),
      ArtifactStore.sampleCandidate (.singleton "/App.tsx" "") "ab" "c"⟩] (payloadTraces payload).sha256
  editors :=
    { transactions := .short []
      encodeSnapshot := (LineCodec.short []).encode
      decodeSnapshot := (LineCodec.short []).decode
      decode_encodeSnapshot := LineCodec.decode_encode_short
      baselineBytes := fun _ _ _ => []
      stateBytes := fun _ => []
      sha256 := (payloadTraces payload).sha256 }
  capsules :=
    { traces := payloadTraces payload
      event := fun _ => []
      capsule := fun capsule => utf8 capsule.toValue.compact
      identity := fun identity => utf8 identity.toValue.compact }
  artifacts_sha256 := rfl
  editors_sha256 := rfl

noncomputable def payloadWrites : WritesJson (payloadStores payload).capsules where
  digest := payloadDigest payload
  sha256_eq _ := rfl
  capsule_eq _ := rfl
  identity_eq _ := rfl

variable {payload}

theorem sha256_payload {bytes : List UInt8} (h : bytes ≠ utf8 (payloadUnsigned payload).toValue.compact) :
    (payloadTraces payload).sha256 bytes = ArtifactStore.sampleHex 'a' := by
  have hhex : String.ofList (encodeHex (List.replicate 32 170)) = ArtifactStore.sampleHex 'a' := by decide
  rw [← hhex]
  unfold payloadTraces payloadDigest
  dsimp only
  rw [if_neg h]

/-- The text of the capsule begins with the quote of its first key. -/
theorem compact_payloadUnsigned : ∃ chars, (payloadUnsigned payload).toValue.compact = '\x7b' :: '"' :: chars := ⟨_, rfl⟩

theorem sha256_payload_text {text : String} (h : text.toList.take 2 ≠ ['\x7b', '"']) :
    (payloadTraces payload).sha256 (utf8 text.toList) = ArtifactStore.sampleHex 'a' := by
  refine sha256_payload fun hsame => h ?_
  obtain ⟨chars, hchars⟩ := @compact_payloadUnsigned payload
  rw [utf8_injective hsame, hchars]
  rfl

theorem sha256_payload_nil : (payloadTraces payload).sha256 [] = ArtifactStore.sampleHex 'a' :=
  @sha256_payload_text payload "" (by decide)

/-- An identity of sources has four keys, and a capsule has more. -/
theorem sha256_payload_identity (identity : AcceptedSourceIdentity) :
    (payloadTraces payload).sha256 (utf8 identity.toValue.compact) = ArtifactStore.sampleHex 'a' := by
  refine sha256_payload fun hsame => ?_
  have htext := JsonText.text_injective (utf8_injective hsame)
  have hlength : 4 = 13 := congrArg List.length (JsonText.object.inj htext)
  cases hlength

theorem draftCapsule_payload :
    draftCapsule (payloadStores payload).capsules (sampleArtifact (.singleton "/App.tsx" ""))
        (sampleEditor (.singleton "/App.tsx" "")) (payloadRuntime payload) sampleEnvironment =
      draftCapsule (shortCapsules []) (sampleArtifact (.singleton "/App.tsx" ""))
        (sampleEditor (.singleton "/App.tsx" "")) (payloadRuntime payload) sampleEnvironment := by
  refine draftCapsule_congr rfl ?_ fun _ => sha256_payload_nil
  have hstart : ∀ text ∈ ["ab", "c", "\x7b\x7d", "", ""], text.toList.take 2 ≠ ['\x7b', '"'] := by decide
  exact fun text hmem => sha256_payload_text (hstart text hmem)

/-- The capsule that is exported. -/
noncomputable def payloadCapsule (payload : Value) : GenUiBugCapsule :=
  { payloadUnsigned payload with capsuleDigest := some (ArtifactStore.sampleHex 'b') }

theorem signCapsule_payload :
    signCapsule (payloadStores payload).capsules (draftCapsule (payloadStores payload).capsules
        (sampleArtifact (.singleton "/App.tsx" "")) (sampleEditor (.singleton "/App.tsx" "")) (payloadRuntime payload)
        sampleEnvironment) = payloadCapsule payload := by
  rw [draftCapsule_payload]
  unfold signCapsule
  dsimp only
  have hsource (capsule : GenUiBugCapsule) : acceptedSourceDigest (payloadStores payload).capsules capsule =
      ArtifactStore.sampleHex 'a' := sha256_payload_identity _
  have hdigest : unsignedDigest (payloadStores payload).capsules (payloadUnsigned payload) =
      ArtifactStore.sampleHex 'b' := by
    have hhex : String.ofList (encodeHex (List.replicate 32 187)) = ArtifactStore.sampleHex 'b' := by decide
    rw [← hhex]
    show String.ofList (encodeHex (payloadDigest payload (utf8 (payloadUnsigned payload).toValue.compact))) = _
    unfold payloadDigest
    rw [if_pos rfl]
  unfold payloadCapsule
  rw [hsource, ← hdigest]
  rfl

theorem holds_payload :
    RuntimeTrace.Holds (payloadTraces payload) ⟨⟨1⟩, ⟨2⟩, 7⟩
      (some ((payloadTraces payload).lines.render [payloadStored payload])) [payloadStored payload] := by
  have hshort (stored) (hmem : stored ∈ [payloadStored payload]) :
      ((payloadTraces payload).lines.encode stored).length ≤ 1 := LineCodec.length_short_encode_le _ hmem
  have hdigest : (payloadTraces payload).sha256 [] = ArtifactStore.sampleHex 'a' := sha256_payload_nil
  refine RuntimeTrace.holds_render ⟨⟨?_, rfl, rfl, rfl, rfl, rfl, Nat.one_ne_zero, ?_, hdigest.symm⟩, trivial⟩
    (fun stored hmem => (hshort stored hmem).trans (by decide)) ((LineCodec.length_render_le _ hshort).trans ?_)
  · unfold RuntimeTrace.StoredRuntimeTraceEvent.new RuntimeTrace.storedEventDigest
    exact congrArg (fun digest => RuntimeTrace.StoredRuntimeTraceEvent.mk _ _ (some digest) _) hdigest.symm
  · show isSha256 (ArtifactStore.sampleHex 'a') = true
    decide
  · show 1 * (1 + 1) ≤ RuntimeTrace.maxTraceJournalBytes
    decide

theorem recorded_payload :
    Recorded (payloadStores payload) (sampleArtifact (.singleton "/App.tsx" "")) (sampleEditor (.singleton "/App.tsx" ""))
      (payloadRuntime payload) where
  read := by
    have hstored : ArtifactStore.storedEnvelope (payloadStores payload).artifacts
        (ArtifactStore.sampleCandidate (.singleton "/App.tsx" "") "ab" "c") =
        ⟨ArtifactStore.storedArtifactSchemaVersion, some (ArtifactStore.sampleHex 'a'),
          ArtifactStore.sampleCandidate (.singleton "/App.tsx" "") "ab" "c"⟩ := by
      unfold ArtifactStore.storedEnvelope ArtifactStore.expectedSourceDigest
      rw [if_neg (by decide)]
      exact congrArg (fun digest => ArtifactStore.StoredArtifactEnvelope.mk _ (some digest) _) sha256_payload_nil
    have hlength : ((payloadStores payload).artifacts.encode (ArtifactStore.storedEnvelope
        (payloadStores payload).artifacts (ArtifactStore.sampleCandidate (.singleton "/App.tsx" "") "ab" "c"))).length ≤ 1 := by
      rw [hstored]
      exact LineCodec.length_short_encode_le _ List.mem_cons_self
    have hcontent : (payloadTraces payload).sha256 (utf8 "ab".toList ++ utf8 "c".toList) = ArtifactStore.sampleHex 'a' := by
      rw [← utf8_append]
      exact @sha256_payload_text payload "abc" (by decide)
    exact ⟨fun _ => some ((payloadStores payload).artifacts.encode _), _,
      ArtifactStore.metadataOf ⟨2⟩ (ArtifactStore.sampleCandidate (.singleton "/App.tsx" "") "ab" "c"),
      ArtifactStore.call_read_stored rfl (hlength.trans (by decide)) (ArtifactStore.validateCandidate_sample
        (by decide) (by decide) (by decide) hcontent)⟩
  edited := by
    refine ⟨⟨1⟩, ⟨false, none, none⟩, ?_⟩
    have hbaseline : EditorStore.validateEditorState (sampleArtifact (.singleton "/App.tsx" "")).metadata.entrypoint
        (sampleArtifact (.singleton "/App.tsx" "")).sourceFiles
        (sampleArtifact (.singleton "/App.tsx" "")).metadata.entrypoint .empty = .ok () := by decide
    unfold EditorStore.load EditorStore.readState
    dsimp only
    rw [hbaseline]
    exact congrArg (fun digest => Except.ok { sampleEditor (.singleton "/App.tsx" "") with stateDigest := digest })
      sha256_payload_nil
  traced := by
    have hshown : RuntimeTrace.projection (payloadTraces payload) ⟨⟨1⟩, ⟨2⟩, 7⟩ [payloadStored payload] =
        payloadRuntime payload := by
      have hall : RuntimeTrace.projected [payloadStored payload] = [payloadStored payload] := by
        unfold RuntimeTrace.projected
        rw [List.length_singleton, Nat.sub_eq_zero_of_le (by decide), List.drop_zero]
      have hdigest : (payloadTraces payload).sha256 [] = ArtifactStore.sampleHex 'a' := sha256_payload_nil
      rw [RuntimeTrace.projection_eq, hall]
      unfold payloadRuntime
      rw [← hdigest]
      rfl
    have hload := (@holds_payload payload).load
    rw [hshown] at hload
    exact ⟨⟨1⟩, _, _, hload⟩

theorem buildBugCapsule_payload (h : (payloadCapsule payload).toValue.compactBound ≤ maxBugCapsuleBytes) :
    buildBugCapsule (payloadStores payload).capsules (sampleArtifact (.singleton "/App.tsx" ""))
      (sampleEditor (.singleton "/App.tsx" "")) (payloadRuntime payload) sampleEnvironment = .ok (payloadCapsule payload) :=
  buildBugCapsule_eq_ok.mpr ⟨signCapsule_payload.symm, (Value.length_utf8_compact_le _).trans h⟩

/-- The digest of the capsule is that of no other text. -/
theorem noCollision_payload (bytes : List UInt8) :
    NoCollision (payloadWrites payload).digest bytes
      ((payloadStores payload).capsules.capsule { payloadCapsule payload with capsuleDigest := none }) := by
  intro hsame
  show bytes = utf8 (payloadUnsigned payload).toValue.compact
  have hdigest : payloadDigest payload bytes = payloadDigest payload (utf8 (payloadUnsigned payload).toValue.compact) :=
    hsame
  by_contra hother
  unfold payloadDigest at hdigest
  rw [if_neg hother, if_pos rfl] at hdigest
  exact absurd hdigest (by decide)

end

/-- An object as it is recorded, and one that JavaScript lists in another order. -/
def countPayload : Value := .object [("count", .number (.unsigned 1))]

def indexPayload : Value := .object [("10", .null), ("9", .null)]

theorem compactBound_payload : ∀ payload ∈ [countPayload, indexPayload],
    (payloadCapsule payload).toValue.compactBound ≤ maxBugCapsuleBytes := by decide +kernel

/-- A large integer may be written with an exponent. -/
def exponentAtom : JsonAtom := plainAtom "1e+21".toList (natAtom 0)

theorem exponentAtom_text : exponentAtom.text = ['1', 'e', '+', '2', '1'] :=
  congrArg JsonAtom.text (dif_pos ⟨List.cons_ne_nil _ _, by decide⟩)

def sampleReprint : Number → JsNumber
  | .unsigned n => if n.val ≤ maxSafeInteger then natAtom n.val else exponentAtom
  | n => n.atom

def sampleReprinting : Reprinting where
  reprint := sampleReprint
  exact _ h := if_pos h
  inexact n h := by
    show isSafeInteger (some (.number (if n.val ≤ maxSafeInteger then natAtom n.val else exponentAtom))) = false
    rw [if_neg (Nat.not_le_of_lt h)]
    show ((parseNat (maxSafeInteger + 1) exponentAtom.text).isSome ||
      (exponentAtom.text.head? = some '-' && (parseNat (maxSafeInteger + 1) exponentAtom.text.tail).isSome)) = false
    rw [exponentAtom_text]
    decide

instance (n : Nat) : Decidable (SafeCount n) := inferInstanceAs (Decidable (_ ≤ _))

theorem reprinted_of_safe (R : Reprinting) {n : Nat} (h : SafeCount n) : Reprinted R.reprint n :=
  R.exact (Fin.ofNat (2 ^ 64) n) h

end HyperTerm.Workbench
