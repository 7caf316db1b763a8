import HyperTerm.Daemon.BugCapsule
import HyperTerm.Lib.Hex
import HyperTerm.Protocol.CompactJson

/-!
# Bug capsules in JSON

What `serde` makes of a capsule, field by field. Two of the fields are left out when they say nothing.

* `GenUiBugCapsule.toValue` : the value of a capsule;
* `AcceptedSourceIdentity.toValue` : the value whose digest identifies the accepted sources;
* `WritesJson` : encodings that write these values, with SHA-256 in hexadecimal.
-/

namespace HyperTerm.Daemon.RuntimeTrace
open HyperTerm.Protocol

/-- A `u64`. -/
def u64Value (n : Nat) : Value := .number (.unsigned (Fin.ofNat _ n))

def GenUiRuntimeTraceEvent.toValue (event : GenUiRuntimeTraceEvent) : Value :=
  .object [("schema_version", u64Value event.schemaVersion), ("event_sequence", u64Value event.eventSequence),
    ("artifact_id", .string event.artifactId.uuid.text), ("source_revision", u64Value event.sourceRevision),
    ("stream_id", .string event.streamId.text), ("client_sequence", u64Value event.clientSequence),
    ("kind", .string event.kind.name), ("name", .string event.name), ("payload", event.payload),
    ("payload_digest", .string event.payloadDigest), ("redacted", .bool event.redacted),
    ("recorded_at_ms", u64Value event.recordedAtMs)]

def GenUiRuntimeTraceProjection.toValue (runtime : GenUiRuntimeTraceProjection) : Value :=
  .object [("artifact_id", .string runtime.artifactId.uuid.text), ("source_revision", u64Value runtime.sourceRevision),
    ("projection_digest", .string runtime.projectionDigest),
    ("events", .array (runtime.events.map GenUiRuntimeTraceEvent.toValue))]

end HyperTerm.Daemon.RuntimeTrace

namespace HyperTerm.Daemon.BugCapsule
open HyperTerm.Protocol HyperTerm.Lib HyperTerm.Daemon.RuntimeTrace

def GenUiBugCapsuleInclusion.name : GenUiBugCapsuleInclusion → String
  | .included => "included"
  | .digestOnly => "digest_only"
  | .excluded => "excluded"

def GenUiBugCapsuleInventoryEntry.toValue (entry : GenUiBugCapsuleInventoryEntry) : Value :=
  .object [("category", .string entry.category), ("inclusion", .string entry.inclusion.name),
    ("item_count", u64Value entry.itemCount), ("byte_count", u64Value entry.byteCount), ("reason", .string entry.reason)]

def GenUiBugCapsuleFile.toValue (file : GenUiBugCapsuleFile) : Value :=
  .object [("path", .string file.path), ("byte_count", u64Value file.byteCount),
    ("content_digest", .string file.contentDigest), ("modified", .bool file.modified)]

def GenUiBugCapsuleOutputs.toValue (outputs : GenUiBugCapsuleOutputs) : Value :=
  .object [("bundle_bytes", u64Value outputs.bundleBytes), ("bundle_digest", .string outputs.bundleDigest),
    ("css_bytes", u64Value outputs.cssBytes), ("css_digest", .string outputs.cssDigest),
    ("source_map_bytes", u64Value outputs.sourceMapBytes), ("source_map_digest", .string outputs.sourceMapDigest)]

def GenUiBugCapsuleEditorState.toValue (editor : GenUiBugCapsuleEditorState) : Value :=
  .object [("base_source_revision", u64Value editor.baseSourceRevision), ("revision", u64Value editor.revision),
    ("state_digest", .string editor.stateDigest), ("active_path", .string editor.activePath),
    ("view", .string editor.view), ("files", .array (editor.files.map GenUiBugCapsuleFile.toValue))]

/-- `skip_serializing_if = "Option::is_none"`. -/
def optionalMember (key : String) (text : Option String) : List (String × Value) :=
  text.toList.map fun text => (key, .string text)

def GenUiBugCapsuleEnvironment.toValue (environment : GenUiBugCapsuleEnvironment) : Value :=
  .object ([("hyper_term_version", .string environment.hyperTermVersion), ("os", .string environment.os),
      ("architecture", .string environment.architecture)] ++
    (optionalMember "deno_runtime_version" environment.denoRuntimeVersion ++
      (optionalMember "deno_executable_digest" environment.denoExecutableDigest ++
        (optionalMember "compiler_script_digest" environment.compilerScriptDigest ++
          optionalMember "compiler_wasm_digest" environment.compilerWasmDigest))))

def artifactValue (artifact : AcceptedGenUiArtifact) : Value :=
  .object [("artifact_id", .string artifact.artifactId.uuid.text), ("source_revision", u64Value artifact.sourceRevision),
    ("entrypoint", .string artifact.entrypoint), ("content_digest", .string artifact.contentDigest),
    ("compiler", .object [("name", .string artifact.compiler.name), ("version", .string artifact.compiler.version)])]

/-- The members before `capsule_digest`. -/
def GenUiBugCapsule.unsignedMembers (capsule : GenUiBugCapsule) : List (String × Value) :=
  [("schema_version", u64Value capsule.schemaVersion), ("mode", .string capsule.mode),
    ("artifact", artifactValue capsule.artifact),
    ("accepted_source", .array (capsule.acceptedSource.map GenUiBugCapsuleFile.toValue))] ++
  ((if capsule.acceptedSourceDigest = "" then [] else [("accepted_source_digest", .string capsule.acceptedSourceDigest)]) ++
  [("outputs", capsule.outputs.toValue), ("editor", capsule.editor.toValue), ("runtime", capsule.runtime.toValue),
    ("runtime_truncated", .bool capsule.runtimeTruncated), ("omitted_runtime_events", u64Value capsule.omittedRuntimeEvents),
    ("environment", capsule.environment.toValue),
    ("inventory", .array (capsule.inventory.map GenUiBugCapsuleInventoryEntry.toValue)),
    ("reproduction", .array (capsule.reproduction.map Value.string))])

def GenUiBugCapsule.toValue (capsule : GenUiBugCapsule) : Value :=
  .object (capsule.unsignedMembers ++ optionalMember "capsule_digest" capsule.capsuleDigest)

def AcceptedSourceIdentity.toValue (identity : AcceptedSourceIdentity) : Value :=
  .object [("schema_version", u64Value identity.schemaVersion), ("source_revision", u64Value identity.sourceRevision),
    ("entrypoint", .string identity.entrypoint), ("files", .array (identity.files.map GenUiBugCapsuleFile.toValue))]

/-- The encodings write these values, and SHA-256 digests in hexadecimal. -/
structure WritesJson (E : CapsuleEncodings) where
  digest : List UInt8 → List UInt8
  sha256_eq : ∀ bytes, E.traces.sha256 bytes = String.ofList (encodeHex (digest bytes))
  capsule_eq : ∀ capsule, E.capsule capsule = utf8 capsule.toValue.compact
  identity_eq : ∀ identity, E.identity identity = utf8 identity.toValue.compact

end HyperTerm.Daemon.BugCapsule
