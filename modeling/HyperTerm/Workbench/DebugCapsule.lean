import HyperTerm.Daemon.BugCapsuleImport
import HyperTerm.Daemon.BugCapsuleJson
import HyperTerm.Workbench.Reencode
import HyperTerm.Workbench.ReplayDigest

/-!
# Bug capsules in the workbench

The workbench takes a capsule for what it says only after a number of checks, two of which compute a digest of what
`JSON.stringify` writes.

* `decodeAndVerifyBugCapsule` : the checks of the workbench;
* `validCapsule_exported` : of the contract, an exported capsule can only miss that its integers are safe.
-/

namespace HyperTerm.Workbench
open HyperTerm.Lib HyperTerm.Protocol HyperTerm.Daemon.BugCapsule

/-! ## Properties of objects -/

def JsValue.get (key : String) : JsValue → Option JsValue
  | .object members => members.lookup (.ofText key)
  | _ => none

/-- A property of what may be undefined. -/
def property (v : Option JsValue) (key : String) : Option JsValue := v.bind (JsValue.get key)

/-- `===`, for values of which no two are the same object. -/
def strictEquals : Option JsValue → Option JsValue → Bool
  | none, none => true
  | some .null, some .null => true
  | some (.bool b), some (.bool b') => b = b'
  | some (.number n), some (.number n') => n = n'
  | some (.string s), some (.string s') => s = s'
  | _, _ => false

def jsText (s : String) : Option JsValue := some (.string (.ofText s))

def isString : Option JsValue → Bool
  | some (.string _) => true
  | _ => false

def isNonemptyString : Option JsValue → Bool
  | some (.string s) => s ≠ []
  | _ => false

def isBoolean : Option JsValue → Bool
  | some (.bool _) => true
  | _ => false

/-- A safe integer that is not negative: no other number is written as its digits. -/
def isCount : Option JsValue → Bool
  | some (.number n) => (parseNat (maxSafeInteger + 1) n.text).isSome
  | _ => false

/-- `Number.isSafeInteger`. -/
def isSafeInteger : Option JsValue → Bool
  | some (.number n) =>
      (parseNat (maxSafeInteger + 1) n.text).isSome ||
        (n.text.head? = some '-' && (parseNat (maxSafeInteger + 1) n.text.tail).isSome)
  | _ => false

/-- `/^[0-9a-f]{64}$/`. -/
def sha256Pattern (s : JsString) : Bool :=
  s.length = 64 && s.all fun unit =>
    (48 ≤ unit.toNat ∧ unit.toNat ≤ 57) ∨ (97 ≤ unit.toNat ∧ unit.toNat ≤ 102)

def isSha256Text : Option JsValue → Bool
  | some (.string s) => sha256Pattern s
  | _ => false

/-- `Array.isArray`, with a bound on the length and a check of every item. -/
def isArrayOf (bound : Nat) (p : JsValue → Bool) : Option JsValue → Bool
  | some (.array items) => items.length ≤ bound && items.all p
  | _ => false

/-! ## The checks -/

def maxCapsuleBytes : Nat := 512 * 1024

structure BugCapsuleContext where
  artifactId : JsString
  sourceRevision : JsNumber

def validInventoryEntry (entry : JsValue) : Bool :=
  isNonemptyString (entry.get "category") &&
    (["included", "digest_only", "excluded"].any fun inclusion => strictEquals (entry.get "inclusion") (jsText inclusion)) &&
    isSafeInteger (entry.get "item_count") && isCount (entry.get "item_count") &&
    isSafeInteger (entry.get "byte_count") && isCount (entry.get "byte_count") && isNonemptyString (entry.get "reason")

def jsNumber (n : Nat) : Option JsValue := some (.number (natAtom n))

def validSourceDigest (capsule : JsValue) : Bool :=
  if strictEquals (capsule.get "schema_version") (jsNumber 1) then (capsule.get "accepted_source_digest").isNone
  else isString (capsule.get "accepted_source_digest") && isSha256Text (capsule.get "accepted_source_digest")

def validArtifact (artifact : Option JsValue) (context : Option BugCapsuleContext) : Bool :=
  isString (property artifact "artifact_id") &&
    (context.all fun context => strictEquals (property artifact "artifact_id") (some (.string context.artifactId))) &&
    isSafeInteger (property artifact "source_revision") &&
    (context.all fun context => strictEquals (property artifact "source_revision") (some (.number context.sourceRevision))) &&
    isSha256Text (property artifact "content_digest")

def validRuntime (runtime artifact : Option JsValue) : Bool :=
  strictEquals (property runtime "artifact_id") (property artifact "artifact_id") &&
    strictEquals (property runtime "source_revision") (property artifact "source_revision") &&
    isSha256Text (property runtime "projection_digest") && isArrayOf 256 (fun _ => true) (property runtime "events")

def validCapsule (capsule : JsValue) (context : Option BugCapsuleContext) : Bool :=
  (strictEquals (capsule.get "schema_version") (jsNumber 1) || strictEquals (capsule.get "schema_version") (jsNumber 2)) &&
    validSourceDigest capsule && strictEquals (capsule.get "mode") (jsText "replay_only") &&
    validArtifact (capsule.get "artifact") context && validRuntime (capsule.get "runtime") (capsule.get "artifact") &&
    isBoolean (capsule.get "runtime_truncated") && isSafeInteger (capsule.get "omitted_runtime_events") &&
    isCount (capsule.get "omitted_runtime_events") && isArrayOf 32 validInventoryEntry (capsule.get "inventory") &&
    isArrayOf 16 (fun step => isString (some step)) (capsule.get "reproduction") &&
    isString (capsule.get "capsule_digest") && isSha256Text (capsule.get "capsule_digest")

section

variable (sha256 : List UInt8 → List UInt8)

/-- The digest of a text in hexadecimal. -/
def hexDigest (chars : List Char) : Option JsValue := some (.string (utf16 ((sha256 (utf8 chars)).flatMap hexByte)))

/-- The capsule without its digest. -/
def unsignedCapsule : JsValue → JsValue
  | .object members => .object (members.filter fun member => member.1 ≠ .ofText "capsule_digest")
  | v => v

def digestUnsignedBugCapsule (capsule : JsValue) : Option JsValue := hexDigest sha256 (unsignedCapsule capsule).stringify

/-- `JSON.stringify` leaves out what is undefined. -/
def definedMember (key : String) (v : Option JsValue) : List (JsString × JsValue) := v.toList.map fun v => (.ofText key, v)

def acceptedSourceIdentityOf (capsule : JsValue) : JsValue :=
  .object (definedMember "schema_version" (jsNumber 1) ++
    (definedMember "source_revision" (property (capsule.get "artifact") "source_revision") ++
      (definedMember "entrypoint" (property (capsule.get "artifact") "entrypoint") ++
        definedMember "files" (capsule.get "accepted_source"))))

def digestAcceptedSource (capsule : JsValue) : Option JsValue :=
  hexDigest sha256 (acceptedSourceIdentityOf capsule).stringify

/-- `encoded` is the text of a value of `serde_json`. -/
def decodeAndVerifyBugCapsule (reprint : Number → JsNumber) (encoded : Value) (context : Option BugCapsuleContext) :
    Except String JsValue :=
  let capsule := JsValue.parsed reprint encoded
  if maxCapsuleBytes < (utf8 encoded.compact).length then
    .error "Rust Bug Capsule exceeded its bounded export size."
  else if validCapsule capsule context = false then
    .error "Rust Bug Capsule violated its replay-only contract."
  else if strictEquals (digestUnsignedBugCapsule sha256 capsule) (capsule.get "capsule_digest") = false then
    .error "Rust Bug Capsule failed offline integrity verification."
  else if strictEquals (capsule.get "schema_version") (jsNumber 2) ∧
      strictEquals (digestAcceptedSource sha256 capsule) (capsule.get "accepted_source_digest") = false then
    .error "Rust Bug Capsule failed accepted source verification."
  else .ok capsule

end

/-! ## Reading what was parsed -/

/-- What is read of an integer, as it is specified: a safe one exactly, and any other as a number that is not safe. -/
structure Reprinting where
  reprint : Number → JsNumber
  exact : ∀ n : Fin (2 ^ 64), n.val ≤ maxSafeInteger → reprint (.unsigned n) = natAtom n.val
  inexact : ∀ n : Fin (2 ^ 64), maxSafeInteger < n.val → isSafeInteger (some (.number (reprint (.unsigned n)))) = false

theorem lookup_parsedMembers {reprint : Number → JsNumber} (members : List (String × Value)) (key : String) :
    (parsedMembers reprint members).lookup (.ofText key) = (members.lookup key).map (.parsed reprint) := by
  induction members with
  | nil => rfl
  | cons member members ih =>
      obtain ⟨key', v⟩ := member
      rw [parsedMembers, List.lookup_cons, List.lookup_cons, ih]
      by_cases hkey : key = key'
      · rw [hkey, beq_self_eq_true, beq_self_eq_true]
        rfl
      · rw [beq_eq_false_iff_ne.mpr hkey, beq_eq_false_iff_ne.mpr fun h => hkey (ofText_injective h)]

theorem parsed_object {reprint : Number → JsNumber} {members : List (String × Value)}
    (h : KeysInOrder (members.map Prod.fst)) :
    JsValue.parsed reprint (.object members) = .object (parsedMembers reprint members) := by
  rw [JsValue.parsed, ownOrder_eq (keysInOrder_iff.mp h)]

theorem get_parsed {reprint : Number → JsNumber} {members : List (String × Value)}
    (h : KeysInOrder (members.map Prod.fst)) (key : String) :
    (JsValue.parsed reprint (.object members)).get key = (members.lookup key).map (.parsed reprint) := by
  rw [parsed_object h]
  exact lookup_parsedMembers members key

theorem isSafeInteger_of_isCount {v : Option JsValue} (h : isCount v = true) : isSafeInteger v = true := by
  unfold isCount at h
  split at h
  · unfold isSafeInteger
    dsimp only
    rw [h, Bool.true_or]
  · cases h

/-- The integers that the workbench takes for counts. -/
def SafeCount (n : Nat) : Prop := n % 18446744073709551616 ≤ maxSafeInteger

/-- An integer is safe, and a count, just when it is small enough. -/
theorem isSafeInteger_u64Value (R : Reprinting) (n : Nat) :
    (isSafeInteger (some (.parsed R.reprint (Daemon.RuntimeTrace.u64Value n))) = true ↔ SafeCount n) ∧
      (isCount (some (.parsed R.reprint (Daemon.RuntimeTrace.u64Value n))) = true ↔ SafeCount n) := by
  have hval : (Fin.ofNat (2 ^ 64) n).val = n % 18446744073709551616 := rfl
  have hparsed : JsValue.parsed R.reprint (Daemon.RuntimeTrace.u64Value n) =
      .number (R.reprint (.unsigned (Fin.ofNat (2 ^ 64) n))) := rfl
  unfold SafeCount
  rw [hparsed, ← hval]
  generalize Fin.ofNat (2 ^ 64) n = m
  have hsmall (h : isSafeInteger (some (.number (R.reprint (.unsigned m)))) = true) : m.val ≤ maxSafeInteger := by
    by_contra hlarge
    rw [R.inexact m (Nat.lt_of_not_le hlarge)] at h
    cases h
  have hcount (h : m.val ≤ maxSafeInteger) : isCount (some (.number (R.reprint (.unsigned m)))) = true := by
    rw [R.exact m h]
    show (parseNat (maxSafeInteger + 1) (Nat.toDigits 10 m.val)).isSome = true
    rw [parseNat_digits (Nat.lt_succ_of_le h)]
    rfl
  exact ⟨⟨hsmall, fun h => isSafeInteger_of_isCount (hcount h)⟩, ⟨fun h => hsmall (isSafeInteger_of_isCount h), hcount⟩⟩

theorem isArrayOf_parsed {reprint : Number → JsNumber} {bound : Nat} {p : JsValue → Bool} {items : List Value} :
    isArrayOf bound p (some (.parsed reprint (.array items))) = true ↔
      items.length ≤ bound ∧ ∀ v ∈ items, p (.parsed reprint v) = true := by
  show (decide ((parsedItems reprint items).length ≤ bound) && (parsedItems reprint items).all p) = true ↔ _
  rw [parsedItems_eq_map, List.length_map, Bool.and_eq_true, decide_eq_true_iff, List.all_map, List.all_eq_true]
  rfl

theorem utf16_of_ascii {chars : List Char} (h : ∀ c ∈ chars, c.toNat < 128) :
    utf16 chars = chars.map fun c => UInt16.ofNat c.toNat := by
  induction chars with
  | nil => rfl
  | cons c chars ih =>
      have hc := h c List.mem_cons_self
      show (CodePoint.scalar c).units ++ utf16 chars = _
      rw [ih fun d hd => h d (List.mem_cons_of_mem _ hd), CodePoint.units, if_pos (by omega), List.map_cons]
      rfl

/-- A digest in lower case is one for the workbench as well. -/
theorem sha256Pattern_ofText {s : String} (h : Daemon.isSha256 s = true) : sha256Pattern (.ofText s) = true := by
  unfold Daemon.isSha256 at h
  rw [Bool.and_eq_true, beq_iff_eq, List.all_eq_true] at h
  obtain ⟨hsize, hchars⟩ := h
  have hdigits : ∀ c ∈ s.toList, 48 ≤ c.toNat ∧ c.toNat ≤ 57 ∨ 97 ≤ c.toNat ∧ c.toNat ≤ 102 := by
    intro c hc
    have hdigit := hchars c hc
    simp only [Bool.or_eq_true, Bool.and_eq_true, decide_eq_true_eq] at hdigit
    exact hdigit
  have hascii : ∀ c ∈ s.toList, c.toNat < 128 := by
    intro c hc
    have := hdigits c hc
    omega
  have hlength : s.toList.length = 64 := by
    rw [← length_utf8_of_ascii hascii, ← utf8ByteSize_ofList, String.ofList_toList, hsize]
  unfold sha256Pattern JsString.ofText
  rw [utf16_of_ascii hascii, List.length_map, hlength, Bool.and_eq_true, List.all_eq_true]
  refine ⟨rfl, fun unit hunit => ?_⟩
  obtain ⟨c, hc, rfl⟩ := List.mem_map.mp hunit
  have hsmall := hascii c hc
  have hnat : (UInt16.ofNat c.toNat).toNat = c.toNat := toNat_unit (by omega)
  rw [decide_eq_true_iff, hnat]
  exact hdigits c hc

/-! ## Capsules that were exported -/

/-- What the workbench asks of a capsule and the daemon has seen to. -/
structure Exported (E : CapsuleEncodings) (capsule : GenUiBugCapsule) : Prop where
  schemaVersion : capsule.schemaVersion = 2
  mode : capsule.mode = "replay_only"
  artifactId : capsule.runtime.artifactId = capsule.artifact.artifactId
  sourceRevision : capsule.runtime.sourceRevision = capsule.artifact.sourceRevision
  contentDigest : Daemon.isSha256 capsule.artifact.contentDigest = true
  projectionDigest : Daemon.isSha256 capsule.runtime.projectionDigest = true
  events : capsule.runtime.events.length ≤ 256
  inventory_length : capsule.inventory.length ≤ 32
  inventory : ∀ entry ∈ capsule.inventory, entry.category ≠ "" ∧ entry.reason ≠ ""
  reproduction : capsule.reproduction.length ≤ 16
  acceptedSourceDigest : capsule.acceptedSourceDigest = acceptedSourceDigest E capsule
  capsuleDigest : capsule.capsuleDigest = some (unsignedDigest E capsule)

theorem exported_of_build {S : Stores} {artifact : Daemon.ArtifactStore.StoredGenUiArtifact}
    {editor : Daemon.EditorStore.ArtifactEditorCheckpoint} {runtime : Daemon.RuntimeTrace.GenUiRuntimeTraceProjection}
    {environment : GenUiBugCapsuleEnvironment} {capsule : GenUiBugCapsule} (hrecorded : Recorded S artifact editor runtime)
    (hbuild : buildBugCapsule S.capsules artifact editor runtime environment = .ok capsule) :
    Exported S.capsules capsule := by
  obtain ⟨hcapsule, -⟩ := buildBugCapsule_eq_ok.mp hbuild
  obtain ⟨hid, hrevision, hshown⟩ := hrecorded.shownEvents
  rw [hcapsule]
  refine ⟨rfl, rfl, hid, hrevision, hrecorded.readArtifact.contentDigest, S.capsules.traces.isSha256_sha256 _,
    (hshown.bounded S.capsules).length_le, ?_, ?_, ?_, rfl, rfl⟩
  · show 10 ≤ 32
    decide
  · have hall : ∀ text ∈ (capsuleInventory [] [] ⟨0, "", 0, "", 0, ""⟩ 0 0).map fun entry => (entry.category, entry.reason),
        text.1 ≠ "" ∧ text.2 ≠ "" := by decide
    have hsame : (signCapsule S.capsules (draftCapsule S.capsules artifact editor runtime environment)).inventory.map
        (fun entry => (entry.category, entry.reason)) =
        (capsuleInventory [] [] ⟨0, "", 0, "", 0, ""⟩ 0 0).map fun entry => (entry.category, entry.reason) := rfl
    intro entry hentry
    refine hall (entry.category, entry.reason) ?_
    rw [← hsame]
    exact List.mem_map_of_mem hentry
  · show 4 ≤ 16
    decide

variable {E : CapsuleEncodings} {capsule : GenUiBugCapsule}

theorem isSha256_acceptedSourceDigest (h : Exported E capsule) : Daemon.isSha256 capsule.acceptedSourceDigest = true := by
  rw [h.acceptedSourceDigest]
  exact E.traces.isSha256_sha256 _

/-- The members of a capsule, none of which is left out. -/
def exportedMembers (capsule : GenUiBugCapsule) : List (String × Value) :=
  [("schema_version", Daemon.RuntimeTrace.u64Value capsule.schemaVersion), ("mode", .string capsule.mode),
    ("artifact", artifactValue capsule.artifact),
    ("accepted_source", .array (capsule.acceptedSource.map GenUiBugCapsuleFile.toValue)),
    ("accepted_source_digest", .string capsule.acceptedSourceDigest), ("outputs", capsule.outputs.toValue),
    ("editor", capsule.editor.toValue), ("runtime", capsule.runtime.toValue),
    ("runtime_truncated", .bool capsule.runtimeTruncated),
    ("omitted_runtime_events", Daemon.RuntimeTrace.u64Value capsule.omittedRuntimeEvents),
    ("environment", capsule.environment.toValue),
    ("inventory", .array (capsule.inventory.map GenUiBugCapsuleInventoryEntry.toValue)),
    ("reproduction", .array (capsule.reproduction.map Value.string))]

def signedMembers (capsule : GenUiBugCapsule) (digest : String) : List (String × Value) :=
  exportedMembers capsule ++ [("capsule_digest", .string digest)]

theorem unsignedMembers_eq (h : Exported E capsule) : capsule.unsignedMembers = exportedMembers capsule := by
  have hne : capsule.acceptedSourceDigest ≠ "" := by
    intro hempty
    have hdigest := isSha256_acceptedSourceDigest h
    rw [hempty] at hdigest
    revert hdigest
    decide
  unfold GenUiBugCapsule.unsignedMembers
  rw [if_neg hne]
  rfl

theorem toValue_exported (h : Exported E capsule) :
    capsule.toValue = .object (signedMembers capsule (unsignedDigest E capsule)) := by
  unfold GenUiBugCapsule.toValue
  rw [unsignedMembers_eq h, h.capsuleDigest]
  rfl

theorem toValue_unsigned (h : Exported E capsule) :
    { capsule with capsuleDigest := none : GenUiBugCapsule }.toValue = .object (exportedMembers capsule) := by
  rw [← unsignedMembers_eq h]
  unfold GenUiBugCapsule.toValue
  exact congrArg Value.object (List.append_nil _)

theorem keysInOrder_signed (digest : String) : KeysInOrder ((signedMembers capsule digest).map Prod.fst) := by
  have hkeys : (signedMembers capsule digest).map Prod.fst = ["schema_version", "mode", "artifact", "accepted_source",
      "accepted_source_digest", "outputs", "editor", "runtime", "runtime_truncated", "omitted_runtime_events",
      "environment", "inventory", "reproduction", "capsule_digest"] := rfl
  rw [hkeys]
  exact NameKeys.keysInOrder (by repeat' constructor)

theorem get_exported (R : Reprinting) (h : Exported E capsule) (key : String) :
    (JsValue.parsed R.reprint capsule.toValue).get key =
      ((signedMembers capsule (unsignedDigest E capsule)).lookup key).map (.parsed R.reprint) := by
  rw [toValue_exported h]
  exact get_parsed (keysInOrder_signed _) key

/-! ## The contract -/

theorem property_parsed {reprint : Number → JsNumber} {members : List (String × Value)}
    (h : KeysInOrder (members.map Prod.fst)) (key : String) :
    property (some (JsValue.parsed reprint (.object members))) key = (members.lookup key).map (.parsed reprint) :=
  get_parsed h key

theorem strictEquals_string (s : JsString) : strictEquals (some (.string s)) (some (.string s)) = true := decide_eq_true rfl

theorem strictEquals_number (n : JsNumber) : strictEquals (some (.number n)) (some (.number n)) = true := decide_eq_true rfl

/-- The context, if there is one, is that of the capsule. -/
def InContext (R : Reprinting) (capsule : GenUiBugCapsule) (context : Option BugCapsuleContext) : Prop :=
  ∀ known ∈ context, known.artifactId = .ofText capsule.artifact.artifactId.uuid.text ∧
    JsValue.number known.sourceRevision =
      .parsed R.reprint (Daemon.RuntimeTrace.u64Value capsule.artifact.sourceRevision)

/-- What the workbench reads of an artifact. -/
theorem property_artifact (R : Reprinting) (artifact : AcceptedGenUiArtifact) :
    property (some (.parsed R.reprint (artifactValue artifact))) "artifact_id" =
        some (.string (.ofText artifact.artifactId.uuid.text)) ∧
      property (some (.parsed R.reprint (artifactValue artifact))) "source_revision" =
        some (.parsed R.reprint (Daemon.RuntimeTrace.u64Value artifact.sourceRevision)) ∧
      property (some (.parsed R.reprint (artifactValue artifact))) "entrypoint" =
        some (.string (.ofText artifact.entrypoint)) ∧
      property (some (.parsed R.reprint (artifactValue artifact))) "content_digest" =
        some (.string (.ofText artifact.contentDigest)) := by
  have hkeys : KeysInOrder ["artifact_id", "source_revision", "entrypoint", "content_digest", "compiler"] :=
    NameKeys.keysInOrder (by repeat' constructor)
  exact ⟨property_parsed (by exact hkeys) _, property_parsed (by exact hkeys) _, property_parsed (by exact hkeys) _,
    property_parsed (by exact hkeys) _⟩

theorem validArtifact_exported (R : Reprinting) (h : Exported E capsule) {context : Option BugCapsuleContext}
    (hcontext : InContext R capsule context) :
    validArtifact (some (.parsed R.reprint (artifactValue capsule.artifact))) context =
      isSafeInteger (some (.parsed R.reprint (Daemon.RuntimeTrace.u64Value capsule.artifact.sourceRevision))) := by
  obtain ⟨hid, hrevision, -, hdigest⟩ := property_artifact R capsule.artifact
  have hpattern : isSha256Text (some (.string (.ofText capsule.artifact.contentDigest))) = true :=
    sha256Pattern_ofText h.contentDigest
  have hknown : (context.all fun context => strictEquals (some (.string (.ofText capsule.artifact.artifactId.uuid.text)))
      (some (.string context.artifactId))) = true := by
    rw [Option.all_eq_true]
    intro known hmem
    rw [(hcontext known hmem).1]
    exact strictEquals_string _
  have hsame : (context.all fun context => strictEquals
      (some (.parsed R.reprint (Daemon.RuntimeTrace.u64Value capsule.artifact.sourceRevision)))
      (some (.number context.sourceRevision))) = true := by
    rw [Option.all_eq_true]
    intro known hmem
    rw [← (hcontext known hmem).2]
    exact strictEquals_number _
  unfold validArtifact
  rw [hid, hrevision, hdigest, hpattern, hknown, hsame, Bool.and_true, Bool.and_true, Bool.and_true]
  exact Bool.true_and _

theorem validRuntime_exported (R : Reprinting) (h : Exported E capsule) :
    validRuntime (some (.parsed R.reprint capsule.runtime.toValue)) (some (.parsed R.reprint (artifactValue capsule.artifact))) =
      true := by
  obtain ⟨hid, hrevision, -, -⟩ := property_artifact R capsule.artifact
  have hkeys : KeysInOrder ["artifact_id", "source_revision", "projection_digest", "events"] :=
    NameKeys.keysInOrder (by repeat' constructor)
  have hid' : property (some (.parsed R.reprint capsule.runtime.toValue)) "artifact_id" =
      some (.string (.ofText capsule.runtime.artifactId.uuid.text)) := property_parsed (by exact hkeys) _
  have hrevision' : property (some (.parsed R.reprint capsule.runtime.toValue)) "source_revision" =
      some (.parsed R.reprint (Daemon.RuntimeTrace.u64Value capsule.runtime.sourceRevision)) := property_parsed (by exact hkeys) _
  have hdigest : property (some (.parsed R.reprint capsule.runtime.toValue)) "projection_digest" =
      some (.string (.ofText capsule.runtime.projectionDigest)) := property_parsed (by exact hkeys) _
  have hevents : property (some (.parsed R.reprint capsule.runtime.toValue)) "events" =
      some (.parsed R.reprint (.array (capsule.runtime.events.map Daemon.RuntimeTrace.GenUiRuntimeTraceEvent.toValue))) :=
    property_parsed (by exact hkeys) _
  unfold validRuntime
  rw [hid, hrevision, hid', hrevision', hdigest, hevents, h.artifactId, h.sourceRevision, strictEquals_string]
  have hsame : strictEquals (some (.parsed R.reprint (Daemon.RuntimeTrace.u64Value capsule.artifact.sourceRevision)))
      (some (.parsed R.reprint (Daemon.RuntimeTrace.u64Value capsule.artifact.sourceRevision))) = true :=
    strictEquals_number _
  have hpattern : isSha256Text (some (.string (.ofText capsule.runtime.projectionDigest))) = true :=
    sha256Pattern_ofText h.projectionDigest
  have hlength : isArrayOf 256 (fun _ => true) (some (.parsed R.reprint
      (.array (capsule.runtime.events.map Daemon.RuntimeTrace.GenUiRuntimeTraceEvent.toValue)))) = true :=
    isArrayOf_parsed.mpr ⟨(List.length_map _).trans_le h.events, fun _ _ => rfl⟩
  rw [hsame, hpattern, hlength]
  rfl

/-- What an inventory entry is asked for: of what the daemon writes, only that it counts no further than is safe. -/
theorem validInventoryEntry_exported (R : Reprinting) {entry : GenUiBugCapsuleInventoryEntry}
    (h : entry.category ≠ "" ∧ entry.reason ≠ "") :
    validInventoryEntry (.parsed R.reprint entry.toValue) = true ↔
      SafeCount entry.itemCount ∧ SafeCount entry.byteCount := by
  have hkeys : KeysInOrder ["category", "inclusion", "item_count", "byte_count", "reason"] :=
    NameKeys.keysInOrder (by repeat' constructor)
  have hcategory : (JsValue.parsed R.reprint entry.toValue).get "category" = some (.string (.ofText entry.category)) :=
    get_parsed (by exact hkeys) _
  have hinclusion : (JsValue.parsed R.reprint entry.toValue).get "inclusion" =
      some (.string (.ofText entry.inclusion.name)) := get_parsed (by exact hkeys) _
  have hitems : (JsValue.parsed R.reprint entry.toValue).get "item_count" =
      some (.parsed R.reprint (Daemon.RuntimeTrace.u64Value entry.itemCount)) := get_parsed (by exact hkeys) _
  have hbytes : (JsValue.parsed R.reprint entry.toValue).get "byte_count" =
      some (.parsed R.reprint (Daemon.RuntimeTrace.u64Value entry.byteCount)) := get_parsed (by exact hkeys) _
  have hreason : (JsValue.parsed R.reprint entry.toValue).get "reason" = some (.string (.ofText entry.reason)) :=
    get_parsed (by exact hkeys) _
  have hnonempty {s : String} (hs : s ≠ "") : isNonemptyString (some (.string (.ofText s))) = true := by
    refine decide_eq_true fun hnil => hs ?_
    exact ofText_injective (hnil.trans (by decide))
  have hnamed : (["included", "digest_only", "excluded"].any fun inclusion =>
      strictEquals (some (.string (.ofText entry.inclusion.name))) (jsText inclusion)) = true := by
    cases entry.inclusion <;> decide
  have hsafe (n : Nat) := (isSafeInteger_u64Value R n).1
  have hcount (n : Nat) := (isSafeInteger_u64Value R n).2
  unfold validInventoryEntry
  rw [hcategory, hinclusion, hitems, hbytes, hreason, hnonempty h.1, hnonempty h.2, hnamed]
  simp only [Bool.and_eq_true, hsafe, hcount, true_and, and_true]
  constructor
  · intro hall
    exact ⟨hall.1.1.2, hall.2⟩
  · intro hall
    exact ⟨⟨⟨hall.1, hall.1⟩, hall.2⟩, hall.2⟩

/-- The integers of a capsule that the workbench looks at are safe. -/
structure SafeCounts (capsule : GenUiBugCapsule) : Prop where
  sourceRevision : SafeCount capsule.artifact.sourceRevision
  omittedRuntimeEvents : SafeCount capsule.omittedRuntimeEvents
  inventory : ∀ entry ∈ capsule.inventory, SafeCount entry.itemCount ∧ SafeCount entry.byteCount

theorem schemaVersion_exported (R : Reprinting) (h : Exported E capsule) :
    (JsValue.parsed R.reprint capsule.toValue).get "schema_version" = jsNumber 2 := by
  have hget : (JsValue.parsed R.reprint capsule.toValue).get "schema_version" =
      some (.parsed R.reprint (Daemon.RuntimeTrace.u64Value capsule.schemaVersion)) := get_exported R h _
  rw [hget, h.schemaVersion]
  exact congrArg (fun n => some (JsValue.number n)) (R.exact (Fin.ofNat (2 ^ 64) 2) (by decide))

theorem strictEquals_one_two : strictEquals (jsNumber 2) (jsNumber 1) = false ∧
    strictEquals (jsNumber 2) (jsNumber 2) = true := by
  refine ⟨?_, strictEquals_number _⟩
  show decide (natAtom 2 = natAtom 1) = false
  exact decide_eq_false fun h => absurd (natAtom_injective h) (by decide)

theorem digests_exported (R : Reprinting) (h : Exported E capsule) :
    (JsValue.parsed R.reprint capsule.toValue).get "accepted_source_digest" =
        some (.string (.ofText (acceptedSourceDigest E capsule))) ∧
      (JsValue.parsed R.reprint capsule.toValue).get "capsule_digest" =
        some (.string (.ofText (unsignedDigest E capsule))) :=
  ⟨h.acceptedSourceDigest ▸ get_exported R h _, get_exported R h _⟩

theorem validCapsule_exported (R : Reprinting) (h : Exported E capsule) {context : Option BugCapsuleContext}
    (hcontext : InContext R capsule context) :
    validCapsule (.parsed R.reprint capsule.toValue) context = true ↔ SafeCounts capsule := by
  obtain ⟨hsource, hdigest⟩ := digests_exported R h
  have hschema := schemaVersion_exported R h
  have hmode : (JsValue.parsed R.reprint capsule.toValue).get "mode" = jsText "replay_only" :=
    h.mode ▸ get_exported R h _
  have hartifact : (JsValue.parsed R.reprint capsule.toValue).get "artifact" =
      some (.parsed R.reprint (artifactValue capsule.artifact)) := get_exported R h _
  have hruntime : (JsValue.parsed R.reprint capsule.toValue).get "runtime" =
      some (.parsed R.reprint capsule.runtime.toValue) := get_exported R h _
  have htruncated : (JsValue.parsed R.reprint capsule.toValue).get "runtime_truncated" =
      some (.bool capsule.runtimeTruncated) := get_exported R h _
  have homitted : (JsValue.parsed R.reprint capsule.toValue).get "omitted_runtime_events" =
      some (.parsed R.reprint (Daemon.RuntimeTrace.u64Value capsule.omittedRuntimeEvents)) := get_exported R h _
  have hinventory : (JsValue.parsed R.reprint capsule.toValue).get "inventory" =
      some (.parsed R.reprint (.array (capsule.inventory.map GenUiBugCapsuleInventoryEntry.toValue))) :=
    get_exported R h _
  have hreproduction : (JsValue.parsed R.reprint capsule.toValue).get "reproduction" =
      some (.parsed R.reprint (.array (capsule.reproduction.map Value.string))) := get_exported R h _
  have hpattern (bytes : List UInt8) : isSha256Text (some (.string (.ofText (E.traces.sha256 bytes)))) = true :=
    sha256Pattern_ofText (E.traces.isSha256_sha256 bytes)
  have hsourceDigest : validSourceDigest (.parsed R.reprint capsule.toValue) = true := by
    unfold validSourceDigest
    rw [hschema, strictEquals_one_two.1, hsource]
    exact hpattern _
  have hsteps : isArrayOf 16 (fun step => isString (some step))
      (some (.parsed R.reprint (.array (capsule.reproduction.map Value.string)))) = true := by
    rw [isArrayOf_parsed, List.length_map, List.forall_mem_map]
    exact ⟨h.reproduction, fun _ _ => rfl⟩
  have hentries : isArrayOf 32 validInventoryEntry
      (some (.parsed R.reprint (.array (capsule.inventory.map GenUiBugCapsuleInventoryEntry.toValue)))) = true ↔
        ∀ entry ∈ capsule.inventory, SafeCount entry.itemCount ∧ SafeCount entry.byteCount := by
    rw [isArrayOf_parsed, List.length_map, List.forall_mem_map]
    exact (and_iff_right h.inventory_length).trans
      (forall₂_congr fun entry hentry => validInventoryEntry_exported R (h.inventory entry hentry))
  have hunsigned : isSha256Text (some (.string (.ofText (unsignedDigest E capsule)))) = true := hpattern _
  have hname : strictEquals (jsText "replay_only") (jsText "replay_only") = true := strictEquals_string _
  have hboolean : isBoolean (some (.bool capsule.runtimeTruncated)) = true := rfl
  have hstring : isString (some (.string (.ofText (unsignedDigest E capsule)))) = true := rfl
  unfold validCapsule
  rw [hsourceDigest, hschema, strictEquals_one_two.2, hmode, hartifact, hruntime, htruncated, homitted, hinventory,
    hreproduction, hdigest, validArtifact_exported R h hcontext, validRuntime_exported R h, hsteps, hunsigned,
    hname, hboolean, hstring]
  simp only [Bool.and_eq_true, (isSafeInteger_u64Value R _).1, (isSafeInteger_u64Value R _).2, hentries, Bool.or_true,
    true_and, and_true]
  constructor
  · intro hall
    obtain ⟨⟨⟨hrevision, homitted⟩, -⟩, hinventory⟩ := hall
    exact ⟨hrevision, homitted, hinventory⟩
  · intro hall
    exact ⟨⟨⟨hall.sourceRevision, hall.omittedRuntimeEvents⟩, hall.omittedRuntimeEvents⟩, hall.inventory⟩

end HyperTerm.Workbench
