import HyperTerm.Daemon.RuntimeTraceReplay
import HyperTerm.Lib.Hex
import HyperTerm.Workbench.Stringify

/-!
# The digest of a replay, on both sides

The daemon gives each projection of a runtime trace the digest of what can be replayed of it (`replay_projection_digest`);
before the preview replays, it computes that digest from the events it was sent (`verifyReplayProjectionDigest`). The two
write the events with different encoders of JSON.

* `replayDigestInput` : what the daemon writes;
* `canonicalReplayDigestInput` : what the preview writes;
* `replay_digest_verified` : of what `load` returns, the preview computes the same digest, and of no other events.

SHA-256 is a parameter, and so is what `JSON.parse` makes of an integer.
-/

namespace HyperTerm.Daemon.RuntimeTrace
open HyperTerm.Protocol HyperTerm.Lib

/-! ## The daemon -/

/-- The tuple of an event in `replay_projection_digest`. -/
def GenUiRuntimeTraceEvent.digestInput (event : GenUiRuntimeTraceEvent) : JsonText :=
  .array [.atom (natAtom event.eventSequence), .string (jsonBody event.streamId.text), .atom (natAtom event.clientSequence),
    .string (jsonBody event.kind.name), .string (jsonBody event.name), .string (jsonBody event.payloadDigest),
    .atom (boolAtom event.redacted)]

/-- What `serde_json::to_vec` writes of the events that can be replayed. -/
def replayDigestInput (sourceRevision : Nat) (deterministic : List GenUiRuntimeTraceEvent) : List Char :=
  (JsonText.array [.atom (natAtom runtimeTraceSchemaVersion), .atom (natAtom sourceRevision),
    .array (deterministic.map GenUiRuntimeTraceEvent.digestInput)]).text

/-- The encodings of a trace store whose replay digests are SHA-256 digests of such texts. -/
structure DigestsReplays (E : TraceEncodings) where
  digest : List UInt8 → List UInt8
  sha256_eq : ∀ bytes, E.sha256 bytes = String.ofList (encodeHex (digest bytes))
  projectionBytes_eq : ∀ sourceRevision deterministic,
    E.projectionBytes sourceRevision deterministic = utf8 (replayDigestInput sourceRevision deterministic)

end HyperTerm.Daemon.RuntimeTrace

namespace HyperTerm.Workbench
open HyperTerm.Protocol HyperTerm.Lib HyperTerm.Daemon.RuntimeTrace

/-! ## The preview -/

/-- The fields of a `RuntimeTraceEvent` that its digest is of. -/
structure RuntimeTraceEvent where
  eventSequence : JsNumber
  streamId : JsString
  clientSequence : JsNumber
  kind : JsString
  name : JsString
  payloadDigest : JsString
  redacted : Bool

def isReplayBoundary (event : RuntimeTraceEvent) : Bool :=
  event.kind = .ofText "action" ∨ event.kind = .ofText "checkpoint" ∨ event.kind = .ofText "effect_receipt"

/-- The array of an event in `canonicalReplayDigestInput`. -/
def RuntimeTraceEvent.digestInput (event : RuntimeTraceEvent) : JsonText :=
  .array [.atom event.eventSequence, .string event.streamId.body, .atom event.clientSequence, .string event.kind.body,
    .string event.name.body, .string event.payloadDigest.body, .atom (boolAtom event.redacted)]

def canonicalReplayDigestInput (sourceRevision : JsNumber) (events : List RuntimeTraceEvent) : List Char :=
  (JsonText.array [.atom (natAtom 1), .atom sourceRevision,
    .array ((events.filter isReplayBoundary).map RuntimeTraceEvent.digestInput)]).text

/-- `byte.toString(16).padStart(2, "0")`. -/
def hexByte (byte : UInt8) : List Char := (Nat.toDigits 16 byte.toNat).leftpad 2 '0'

def verifyReplayProjectionDigest (sha256 : List UInt8 → List UInt8) (sourceRevision : JsNumber)
    (events : List RuntimeTraceEvent) (expected : JsString) : Bool :=
  let digest := sha256 (utf8 (canonicalReplayDigestInput sourceRevision events))
  let actual := utf16 (digest.flatMap hexByte)
  actual = expected

/-! ## What the preview is sent -/

section

variable (parseInteger : Nat → JsNumber)

/-- What `JSON.parse` makes of an event of the daemon. -/
def RuntimeTraceEvent.received (event : GenUiRuntimeTraceEvent) : RuntimeTraceEvent where
  eventSequence := parseInteger event.eventSequence
  streamId := .ofText event.streamId.text
  clientSequence := parseInteger event.clientSequence
  kind := .ofText event.kind.name
  name := .ofText event.name
  payloadDigest := .ofText event.payloadDigest
  redacted := event.redacted

end

/-- The integers of these events are read exactly. -/
def SafeIntegers (sourceRevision : Nat) (events : List GenUiRuntimeTraceEvent) : Prop :=
  sourceRevision ≤ maxSafeInteger ∧
    ∀ event ∈ events, event.eventSequence ≤ maxSafeInteger ∧ event.clientSequence ≤ maxSafeInteger

variable {E : TraceEncodings} {parseInteger : Nat → JsNumber}

theorem isReplayBoundary_received (event : GenUiRuntimeTraceEvent) :
    isReplayBoundary (.received parseInteger event) =
      decide (event.kind = .action ∨ event.kind = .checkpoint ∨ event.kind = .effectReceipt) := by
  have hall : ∀ kind ∈ [GenUiRuntimeTraceKind.action, .checkpoint, .effectReceipt, .console, .error],
      decide (JsString.ofText kind.name = .ofText "action" ∨ JsString.ofText kind.name = .ofText "checkpoint" ∨
          JsString.ofText kind.name = .ofText "effect_receipt") =
        decide (kind = .action ∨ kind = .checkpoint ∨ kind = .effectReceipt) := by decide
  exact hall event.kind (by cases event.kind <;> decide)

/-- The events that the preview takes for boundaries are those that the daemon digests. -/
theorem filter_received (events : List GenUiRuntimeTraceEvent) :
    (events.map (RuntimeTraceEvent.received parseInteger)).filter isReplayBoundary =
      (replayed events).map (RuntimeTraceEvent.received parseInteger) := by
  rw [List.filter_map]
  congr 1
  exact List.filter_congr fun event _ => isReplayBoundary_received event

theorem digestInput_received (hexact : ∀ n ≤ maxSafeInteger, parseInteger n = natAtom n) {event : GenUiRuntimeTraceEvent}
    (hsafe : event.eventSequence ≤ maxSafeInteger ∧ event.clientSequence ≤ maxSafeInteger) :
    (RuntimeTraceEvent.received parseInteger event).digestInput = event.digestInput := by
  unfold RuntimeTraceEvent.digestInput RuntimeTraceEvent.received GenUiRuntimeTraceEvent.digestInput
  dsimp only
  rw [body_ofText, body_ofText, body_ofText, body_ofText, hexact _ hsafe.1, hexact _ hsafe.2]

/-- The two encoders write the same. -/
theorem canonicalReplayDigestInput_received (hexact : ∀ n ≤ maxSafeInteger, parseInteger n = natAtom n)
    {sourceRevision : Nat} {events : List GenUiRuntimeTraceEvent} (hsafe : SafeIntegers sourceRevision events) :
    canonicalReplayDigestInput (parseInteger sourceRevision) (events.map (.received parseInteger)) =
      replayDigestInput sourceRevision (replayed events) := by
  unfold canonicalReplayDigestInput replayDigestInput runtimeTraceSchemaVersion
  rw [filter_received, List.map_map, hexact _ hsafe.1]
  congr 6
  refine List.map_congr_left fun event hevent => ?_
  exact digestInput_received hexact (hsafe.2 event (List.mem_of_mem_filter hevent))

/-! ## What the digest tells apart -/

theorem RuntimeTraceEvent.digestInput_injective : Function.Injective RuntimeTraceEvent.digestInput := by
  intro event event' h
  have hitems := JsonText.array.inj h
  simp only [List.cons.injEq, JsonText.atom.injEq, JsonText.string.injEq] at hitems
  obtain ⟨hsequence, hstream, hclient, hkind, hname, hdigest, hredacted, -⟩ := hitems
  obtain ⟨_, _, _, _, _, _, _⟩ := event
  obtain ⟨_, _, _, _, _, _, _⟩ := event'
  dsimp only at hsequence hstream hclient hkind hname hdigest hredacted
  rw [hsequence, body_injective hstream, hclient, body_injective hkind, body_injective hname, body_injective hdigest,
    boolAtom_injective hredacted]

theorem filter_eq_of_digestInput_eq {sourceRevision sourceRevision' : JsNumber} {events events' : List RuntimeTraceEvent}
    (h : canonicalReplayDigestInput sourceRevision events = canonicalReplayDigestInput sourceRevision' events') :
    events.filter isReplayBoundary = events'.filter isReplayBoundary := by
  have hitems := JsonText.array.inj (JsonText.text_injective h)
  simp only [List.cons.injEq, JsonText.array.injEq, and_true, true_and] at hitems
  exact List.map_inj_right (fun _ _ hsame => RuntimeTraceEvent.digestInput_injective hsame) |>.mp hitems.2

/-! ## Digests in hexadecimal -/

theorem hexByte_eq (byte : UInt8) : hexByte byte = [hexChar (byte.toNat / 16), hexChar (byte.toNat % 16)] := by
  have hall : ∀ n : Fin 256, (Nat.toDigits 16 n).leftpad 2 '0' = [hexChar (n / 16), hexChar (n % 16)] := by
    decide +kernel
  exact hall ⟨byte.toNat, byte.toNat_lt⟩

theorem flatMap_hexByte (bytes : List UInt8) : bytes.flatMap hexByte = encodeHex bytes :=
  congrArg (List.flatMap · bytes) (funext hexByte_eq)

theorem verifyReplayProjectionDigest_eq_true {sha256 : List UInt8 → List UInt8} {sourceRevision : JsNumber}
    {events : List RuntimeTraceEvent} {bytes : List UInt8} :
    verifyReplayProjectionDigest sha256 sourceRevision events (.ofText (String.ofList (encodeHex (sha256 bytes)))) = true ↔
      sha256 (utf8 (canonicalReplayDigestInput sourceRevision events)) = sha256 bytes := by
  unfold verifyReplayProjectionDigest JsString.ofText
  dsimp only
  rw [decide_eq_true_iff, flatMap_hexByte, String.toList_ofList]
  exact ⟨fun h => encodeHex_injective (utf16_injective h), fun h => by rw [h]⟩

/-- Thirty-two bytes in hexadecimal are a digest for `is_sha256`. -/
theorem isSha256_encodeHex {bytes : List UInt8} (h : bytes.length = 32) :
    Daemon.isSha256 (String.ofList (encodeHex bytes)) = true := by
  have hdigits : ∀ c ∈ encodeHex bytes, 48 ≤ c.toNat ∧ c.toNat ≤ 57 ∨ 97 ≤ c.toNat ∧ c.toNat ≤ 102 := by
    intro c hc
    simpa only [isHexLower, decide_eq_true_iff] using isHexLower_encodeHex bytes c hc
  unfold Daemon.isSha256
  rw [Bool.and_eq_true, beq_iff_eq, List.all_eq_true, utf8ByteSize_ofList, String.toList_ofList,
    length_utf8_of_ascii fun c hc => by have := hdigits c hc; omega, length_encodeHex, h]
  refine ⟨rfl, fun c hc => ?_⟩
  simp only [Bool.or_eq_true, Bool.and_eq_true, decide_eq_true_eq]
  exact hdigits c hc

/-! ## Projections that are loaded -/

theorem load_digest {key : TraceKey} {journal journal' : Option (List UInt8)} {shown : GenUiRuntimeTraceProjection}
    (h : (load E key).call journal = (.ok shown, journal')) :
    shown.projectionDigest = E.sha256 (E.projectionBytes shown.sourceRevision (replayed shown.events)) := by
  unfold load at h
  obtain ⟨stored, left, -, hshown⟩ := InPlace.call_bind_eq_ok.mp h
  obtain ⟨hok, -⟩ := Prod.mk.inj hshown
  have hprojection : projection E key stored = shown := Except.ok.inj hok
  rw [← hprojection, projection_eq]

/-- SHA-256 does not give these two the same digest. -/
def NoCollision (sha256 : List UInt8 → List UInt8) (bytes bytes' : List UInt8) : Prop :=
  sha256 bytes = sha256 bytes' → bytes = bytes'

/-- **The preview accepts what the daemon digested, and nothing else.** Of any events the two encoders write the same
bytes. So the preview accepts what `load` returned; events that differ in what can be replayed, in a field of one of
them, in their number or in their order, it refuses. -/
theorem replay_digest_verified (E : TraceEncodings) (digests : DigestsReplays E) (parseInteger : Nat → JsNumber)
    (hexact : ∀ n ≤ maxSafeInteger, parseInteger n = natAtom n) :
    (∀ sourceRevision events, SafeIntegers sourceRevision events →
      utf8 (canonicalReplayDigestInput (parseInteger sourceRevision) (events.map (.received parseInteger))) =
        E.projectionBytes sourceRevision (replayed events)) ∧
      ∀ key journal journal' shown, (load E key).call journal = (.ok shown, journal') →
        SafeIntegers shown.sourceRevision shown.events →
        verifyReplayProjectionDigest digests.digest (parseInteger shown.sourceRevision)
            (shown.events.map (.received parseInteger)) (.ofText shown.projectionDigest) = true ∧
          ∀ sourceRevision events,
            events.filter isReplayBoundary ≠
                (shown.events.map (.received parseInteger)).filter isReplayBoundary →
              NoCollision digests.digest (utf8 (canonicalReplayDigestInput sourceRevision events))
                (utf8 (canonicalReplayDigestInput (parseInteger shown.sourceRevision)
                  (shown.events.map (.received parseInteger)))) →
              verifyReplayProjectionDigest digests.digest sourceRevision events (.ofText shown.projectionDigest) =
                false := by
  have hbytes (sourceRevision : Nat) (events : List GenUiRuntimeTraceEvent) (hsafe : SafeIntegers sourceRevision events) :
      utf8 (canonicalReplayDigestInput (parseInteger sourceRevision) (events.map (.received parseInteger))) =
        E.projectionBytes sourceRevision (replayed events) := by
    rw [digests.projectionBytes_eq, canonicalReplayDigestInput_received hexact hsafe]
  refine ⟨hbytes, fun key journal journal' shown hload hsafe => ?_⟩
  rw [load_digest hload, digests.sha256_eq, ← hbytes _ _ hsafe]
  refine ⟨verifyReplayProjectionDigest_eq_true.mpr rfl, fun sourceRevision events hdiffers hcollision => ?_⟩
  rw [Bool.eq_false_iff]
  intro hverified
  have htext := utf8_injective (hcollision (verifyReplayProjectionDigest_eq_true.mp hverified))
  exact hdiffers (filter_eq_of_digestInput_eq htext)

/-! ## One event -/

/-- Digests that tell texts of different lengths apart. -/
def lengthDigest (bytes : List UInt8) : List UInt8 := List.replicate 32 (UInt8.ofNat bytes.length)

def replayStored : StoredRuntimeTraceEvent :=
  { windowStored 0 with
    eventDigest := some (windowDigest '0')
    event := { windowEvent 0 with payloadDigest := windowDigest '0' } }

noncomputable def replayEncodings : TraceEncodings where
  lines := .short [replayStored]
  traceBytes _ := []
  storedBytes _ _ := []
  projectionBytes sourceRevision deterministic := utf8 (replayDigestInput sourceRevision deterministic)
  sha256 bytes := String.ofList (encodeHex (lengthDigest bytes))
  isSha256_sha256 _ := isSha256_encodeHex List.length_replicate

def replayDigests : DigestsReplays replayEncodings where
  digest := lengthDigest
  sha256_eq _ := rfl
  projectionBytes_eq _ _ := rfl

theorem holds_replayStored :
    Holds replayEncodings windowKey (some (replayEncodings.lines.render [replayStored])) [replayStored] := by
  have hdigest : windowDigest '0' = String.ofList (encodeHex (lengthDigest [])) := by decide
  have hshort (stored) (hmem : stored ∈ [replayStored]) : (replayEncodings.lines.encode stored).length ≤ 1 :=
    LineCodec.length_short_encode_le _ hmem
  refine holds_render ⟨⟨?_, rfl, rfl, rfl, rfl, rfl, Nat.one_ne_zero, ?_, hdigest⟩, trivial⟩
    (fun stored hmem => (hshort stored hmem).trans (by decide)) ((LineCodec.length_render_le _ hshort).trans (by decide))
  · unfold StoredRuntimeTraceEvent.new replayStored storedEventDigest
    rw [hdigest]
    rfl
  · show Daemon.isSha256 (windowDigest '0') = true
    decide

theorem replay_digest_verified_single :
    ∃ shown journal, (load replayEncodings windowKey).call journal = (.ok shown, journal) ∧
      verifyReplayProjectionDigest lengthDigest (natAtom shown.sourceRevision) (shown.events.map (.received natAtom))
        (.ofText shown.projectionDigest) = true ∧
      verifyReplayProjectionDigest lengthDigest (natAtom shown.sourceRevision) [] (.ofText shown.projectionDigest) =
        false := by
  have hload := holds_replayStored.load
  have hverified := (replay_digest_verified replayEncodings replayDigests natAtom fun _ _ => rfl).2
    windowKey _ _ _ hload (by
      unfold SafeIntegers maxSafeInteger
      decide)
  refine ⟨_, _, hload, hverified.1, hverified.2 _ [] ?_ fun hsame => absurd hsame (by decide +kernel)⟩
  intro hnone
  exact absurd (congrArg List.length hnone) (by decide)

end HyperTerm.Workbench
