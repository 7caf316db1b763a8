import HyperTerm.Lib.Slices
import HyperTerm.Protocol.BigEndian

/-!
# Binary frames of the web terminal

A frame is a header of 36 bytes and the bytes of the terminal. The three kinds share the header; an input and an
output frame leave two of its fields zero.

* `encodeTerminalWebBinary`, `decodeTerminalWebBinary` : the two functions of the source, the decoder with checked
  access to the slice;
* `decode_parts` : what the decoder makes of a byte string that is known by the parts of its header;
* `terminalWebBinary_inverse` : encoder and decoder are inverse to each other, and the decoder stays within bounds.
-/

namespace HyperTerm.Protocol.TerminalWeb
open HyperTerm.Lib

/-- "HTWS". -/
def magic : List UInt8 := [72, 84, 87, 83]

def headerLen : Nat := 36

def terminalWebProtocolVersion : Nat := 3

def maxTerminalWebPayloadBytes : Nat := 256 * 1024

/-- `TerminalWebBinaryFrame`. -/
inductive BinaryFrame where
  | input (sequence : UInt64) (bytes : List UInt8)
  | output (sequence : UInt64) (bytes : List UInt8)
  | snapshot (baseSequence nextSequence totalBytes : UInt64) (bytes : List UInt8)
  deriving DecidableEq

def BinaryFrame.bytes : BinaryFrame → List UInt8
  | input _ bytes | output _ bytes | snapshot _ _ _ bytes => bytes

inductive BinaryKind where
  | input
  | output
  | snapshot
  deriving DecidableEq

def BinaryKind.code : BinaryKind → UInt8
  | input => 1
  | output => 2
  | snapshot => 3

inductive TerminalWebError where
  | truncatedFrame
  | invalidMagic
  | unsupportedVersion (version : Nat)
  | unknownFrameKind (kind : UInt8)
  | unsupportedFlags (flags : UInt8)
  | payloadTooLarge (actual maximum : Nat)
  | payloadLengthMismatch (declared actual : Nat)
  | unexpectedMetadata (kind : String)
  deriving DecidableEq

abbrev Decoding := Except (Stop TerminalWebError)

/-- `TryFrom<u8>`. -/
def BinaryKind.tryFrom (value : UInt8) : Decoding BinaryKind :=
  if value = 1 then .ok .input
  else if value = 2 then .ok .output
  else if value = 3 then .ok .snapshot
  else .error (.error (.unknownFrameKind value))

def encodeTerminalWebBinary (frame : BinaryFrame) : Except TerminalWebError (List UInt8) :=
  let (kind, primary, secondary, totalBytes, bytes) : BinaryKind × UInt64 × UInt64 × UInt64 × List UInt8 :=
    match frame with
    | .input sequence bytes => (.input, sequence, 0, 0, bytes)
    | .output sequence bytes => (.output, sequence, 0, 0, bytes)
    | .snapshot baseSequence nextSequence totalBytes bytes =>
        (.snapshot, baseSequence, nextSequence, totalBytes, bytes)
  if maxTerminalWebPayloadBytes < bytes.length then
    .error (.payloadTooLarge bytes.length maxTerminalWebPayloadBytes)
  else
    .ok (magic ++ (beBytes 2 terminalWebProtocolVersion ++ ([kind.code, 0] ++ (beBytes 8 primary.toNat ++
      (beBytes 8 secondary.toNat ++ (beBytes 8 totalBytes.toNat ++ (beBytes 4 bytes.length ++ bytes)))))))

def readU64 (bytes : List UInt8) (offset : Nat) : Decoding UInt64 := do
  return UInt64.ofNat (beNat (← fixed 8 (← slice bytes offset (offset + 8))))

def requireUnusedMetadata (kind : String) (secondary totalBytes : UInt64) : Decoding Unit :=
  if secondary = 0 ∧ totalBytes = 0 then .ok () else .error (.error (.unexpectedMetadata kind))

def decodeTerminalWebBinary (bytes : List UInt8) : Decoding BinaryFrame := do
  refuse (bytes.length < headerLen) .truncatedFrame
  refuse ((← slice bytes 0 4) ≠ magic) .invalidMagic
  let version := beNat [← index bytes 4, ← index bytes 5]
  refuse (version ≠ terminalWebProtocolVersion) (.unsupportedVersion version)
  let kind ← BinaryKind.tryFrom (← index bytes 6)
  let flags ← index bytes 7
  refuse (flags ≠ 0) (.unsupportedFlags flags)
  let primary ← readU64 bytes 8
  let secondary ← readU64 bytes 16
  let totalBytes ← readU64 bytes 24
  let declared := beNat (← fixed 4 (← slice bytes 32 36))
  refuse (maxTerminalWebPayloadBytes < declared) (.payloadTooLarge declared maxTerminalWebPayloadBytes)
  let payload ← slice bytes headerLen bytes.length
  refuse (declared ≠ payload.length) (.payloadLengthMismatch declared payload.length)
  match kind with
  | .input => do
      requireUnusedMetadata "input" secondary totalBytes
      return .input primary payload
  | .output => do
      requireUnusedMetadata "output" secondary totalBytes
      return .output primary payload
  | .snapshot => return .snapshot primary secondary totalBytes payload

/-! ## The parts of a frame -/

/-- What the decoder does once it has read every field. -/
def ofParts (bytes₀ : List UInt8) (version : Nat) (code flags : UInt8) (primary secondary totalBytes : UInt64)
    (declared : Nat) (payload : List UInt8) : Decoding BinaryFrame := do
  refuse (bytes₀ ≠ magic) .invalidMagic
  refuse (version ≠ terminalWebProtocolVersion) (.unsupportedVersion version)
  let kind ← BinaryKind.tryFrom code
  refuse (flags ≠ 0) (.unsupportedFlags flags)
  refuse (maxTerminalWebPayloadBytes < declared) (.payloadTooLarge declared maxTerminalWebPayloadBytes)
  refuse (declared ≠ payload.length) (.payloadLengthMismatch declared payload.length)
  match kind with
  | .input => do
      requireUnusedMetadata "input" secondary totalBytes
      return .input primary payload
  | .output => do
      requireUnusedMetadata "output" secondary totalBytes
      return .output primary payload
  | .snapshot => return .snapshot primary secondary totalBytes payload

variable {m p s t d payload bytes : List UInt8} {v₀ v₁ code flags : UInt8} {frame : BinaryFrame}

/-- The accesses of a decoder, in a byte string that is known by its parts. -/
structure PartsRead (ε : Type) (bytes m : List UInt8) (v₀ v₁ code flags : UInt8) (p s t d payload : List UInt8) :
    Prop where
  length : bytes.length = 36 + payload.length
  magic : slice bytes 0 4 = (.ok m : Except (Stop ε) _)
  major : index bytes 4 = (.ok v₀ : Except (Stop ε) _)
  minor : index bytes 5 = (.ok v₁ : Except (Stop ε) _)
  version : slice bytes 4 6 = (.ok [v₀, v₁] : Except (Stop ε) _)
  code : index bytes 6 = (.ok code : Except (Stop ε) _)
  flags : index bytes 7 = (.ok flags : Except (Stop ε) _)
  primary : slice bytes 8 16 = (.ok p : Except (Stop ε) _)
  secondary : slice bytes 16 24 = (.ok s : Except (Stop ε) _)
  totalBytes : slice bytes 24 32 = (.ok t : Except (Stop ε) _)
  declared : slice bytes 32 36 = (.ok d : Except (Stop ε) _)
  payload : bytes.drop 36 = payload

/-- Every access is within bounds and finds its part. -/
theorem partsRead (ε : Type) (hm : m.length = 4) (hp : p.length = 8) (hs : s.length = 8) (ht : t.length = 8)
    (hd : d.length = 4) (hbytes : bytes = m ++ v₀ :: v₁ :: code :: flags :: (p ++ (s ++ (t ++ (d ++ payload))))) :
    PartsRead ε bytes m v₀ v₁ code flags p s t d payload := by
  -- the four fields of a fixed length and the payload follow the first eight bytes
  obtain ⟨head, hhead⟩ : ∃ head, head = m ++ [v₀, v₁, code, flags] := ⟨_, rfl⟩
  have hheadLength : head.length = 8 := by simp [hhead, hm]
  have hrest : bytes = head ++ (p ++ (s ++ (t ++ (d ++ payload)))) := by
    rw [hbytes, hhead, List.append_assoc]
    rfl
  refine ⟨?_, slice_of_eq (show bytes = [] ++ _ from hbytes) rfl (by omega), index_of_eq hbytes hm,
    index_of_eq (hbytes.trans (List.append_cons m v₀ _)) (by simp [hm]),
    slice_of_eq (show bytes = m ++ ([v₀, v₁] ++ _) from hbytes) hm rfl,
    index_of_eq (show bytes = (m ++ [v₀, v₁]) ++ _ by rw [hbytes, List.append_assoc]; rfl) (by simp [hm]),
    index_of_eq (show bytes = (m ++ [v₀, v₁, code]) ++ _ by rw [hbytes, List.append_assoc]; rfl) (by simp [hm]),
    slice_of_eq hrest hheadLength (by omega),
    slice_of_eq (hrest.trans (List.append_assoc _ _ _).symm) (by simp [hheadLength, hp]) (by omega),
    slice_of_eq (show bytes = (head ++ (p ++ s)) ++ (t ++ (d ++ payload)) by rw [hrest]; simp only [List.append_assoc])
      (by simp [hheadLength, hp, hs]) (by omega),
    slice_of_eq (show bytes = (head ++ (p ++ (s ++ t))) ++ (d ++ payload) by rw [hrest]; simp only [List.append_assoc])
      (by simp [hheadLength, hp, hs, ht]) (by omega), ?_⟩
  · rw [hbytes]
    simp only [List.length_append, List.length_cons, hm, hp, hs, ht, hd]
    omega
  · have hbefore : bytes = (head ++ (p ++ (s ++ (t ++ d)))) ++ payload := by
      rw [hrest]
      simp only [List.append_assoc]
    rw [hbefore]
    exact List.drop_left' (by simp [hheadLength, hp, hs, ht, hd])

/-- The decoder reads the parts of the header, and every access is within bounds. -/
theorem decode_parts (hm : m.length = 4) (hp : p.length = 8) (hs : s.length = 8) (ht : t.length = 8)
    (hd : d.length = 4) (hbytes : bytes = m ++ v₀ :: v₁ :: code :: flags :: (p ++ (s ++ (t ++ (d ++ payload))))) :
    decodeTerminalWebBinary bytes =
      ofParts m (beNat [v₀, v₁]) code flags (.ofNat (beNat p)) (.ofNat (beNat s)) (.ofNat (beNat t)) (beNat d) payload := by
  have hread := partsRead TerminalWebError hm hp hs ht hd hbytes
  have hlength := hread.length
  have hpayload : slice bytes headerLen bytes.length = (.ok payload : Decoding _) := by
    rw [slice_length (by rw [hlength, headerLen]; omega), headerLen, hread.payload]
  have hshort : refuse (bytes.length < headerLen) TerminalWebError.truncatedFrame = .ok () :=
    refuse_eq_ok.mpr (by rw [hlength, headerLen]; omega)
  unfold decodeTerminalWebBinary readU64
  rw [hshort, hread.magic, hread.major, hread.minor, hread.code, hread.flags, hread.primary, hread.secondary,
    hread.totalBytes, hread.declared, hpayload]
  dsimp only [bind, Except.bind]
  rw [fixed_of_length hp, fixed_of_length hs, fixed_of_length ht, fixed_of_length hd]
  rfl

theorem exists_parts (h : headerLen ≤ bytes.length) : ∃ m v₀ v₁ code flags p s t d payload,
    bytes = m ++ v₀ :: v₁ :: code :: flags :: (p ++ (s ++ (t ++ (d ++ payload)))) ∧ m.length = 4 ∧ p.length = 8 ∧
      s.length = 8 ∧ t.length = 8 ∧ d.length = 4 := by
  unfold headerLen at h
  obtain ⟨m, r₁, rfl, hm⟩ := split_at (show 4 ≤ bytes.length by omega)
  rw [List.length_append] at h
  obtain ⟨four, r₂, rfl, hfour⟩ := split_at (show 4 ≤ r₁.length by omega)
  rw [List.length_append] at h
  obtain ⟨p, r₃, rfl, hp⟩ := split_at (show 8 ≤ r₂.length by omega)
  rw [List.length_append] at h
  obtain ⟨s, r₄, rfl, hs⟩ := split_at (show 8 ≤ r₃.length by omega)
  rw [List.length_append] at h
  obtain ⟨t, r₅, rfl, ht⟩ := split_at (show 8 ≤ r₄.length by omega)
  rw [List.length_append] at h
  obtain ⟨d, payload, rfl, hd⟩ := split_at (show 4 ≤ r₅.length by omega)
  match four, hfour with
  | [v₀, v₁, code, flags], _ => exact ⟨m, v₀, v₁, code, flags, p, s, t, d, payload, rfl, hm, hp, hs, ht, hd⟩

theorem decode_short (h : bytes.length < headerLen) :
    decodeTerminalWebBinary bytes = .error (.error .truncatedFrame) := by
  have hshort : refuse (bytes.length < headerLen) TerminalWebError.truncatedFrame = .error (.error .truncatedFrame) :=
    if_pos h
  unfold decodeTerminalWebBinary
  rw [hshort]
  rfl

theorem tryFrom_eq_ok {kind : BinaryKind} : BinaryKind.tryFrom code = .ok kind ↔ code = kind.code := by
  unfold BinaryKind.tryFrom
  split_ifs with h₁ h₂ h₃
  · subst h₁
    cases kind <;> simp [BinaryKind.code]
  · subst h₂
    cases kind <;> simp [BinaryKind.code]
  · subst h₃
    cases kind <;> simp [BinaryKind.code]
  · cases kind <;> simp [BinaryKind.code, h₁, h₂, h₃]

theorem requireUnusedMetadata_eq_ok {kind : String} {secondary totalBytes : UInt64} {u : Unit} :
    requireUnusedMetadata kind secondary totalBytes = .ok u ↔ secondary = 0 ∧ totalBytes = 0 := by
  unfold requireUnusedMetadata
  split_ifs with h
  · exact ⟨fun _ => h, fun _ => rfl⟩
  · exact ⟨fun h => (nomatch h), fun h' => absurd h' h⟩

/-! ## Fields of eight bytes -/

theorem beBytes_ofNat (hp : p.length = 8) : beBytes 8 (UInt64.ofNat (beNat p)).toNat = p := by
  have hlt := beNat_lt p
  rw [hp] at hlt
  rw [UInt64.toNat_ofNat_of_lt' hlt, beBytes_beNat_of_length hp]

theorem ofNat_beBytes (n : UInt64) : UInt64.ofNat (beNat (beBytes 8 n.toNat)) = n := by
  rw [beNat_beBytes_of_lt n.toNat_lt, UInt64.ofNat_toNat]

/-! ## Encoder and decoder -/

/-- The header of a frame: its kind and the three numbers. -/
def BinaryFrame.header : BinaryFrame → BinaryKind × UInt64 × UInt64 × UInt64
  | input sequence _ => (.input, sequence, 0, 0)
  | output sequence _ => (.output, sequence, 0, 0)
  | snapshot baseSequence nextSequence totalBytes _ => (.snapshot, baseSequence, nextSequence, totalBytes)

theorem encode_eq_ok : encodeTerminalWebBinary frame = .ok bytes ↔
    frame.bytes.length ≤ maxTerminalWebPayloadBytes ∧
      bytes = magic ++ (beBytes 2 terminalWebProtocolVersion ++ ([frame.header.1.code, 0] ++
        (beBytes 8 frame.header.2.1.toNat ++ (beBytes 8 frame.header.2.2.1.toNat ++
          (beBytes 8 frame.header.2.2.2.toNat ++ (beBytes 4 frame.bytes.length ++ frame.bytes)))))) := by
  have hencode : encodeTerminalWebBinary frame =
      if maxTerminalWebPayloadBytes < frame.bytes.length then
        .error (.payloadTooLarge frame.bytes.length maxTerminalWebPayloadBytes)
      else .ok (magic ++ (beBytes 2 terminalWebProtocolVersion ++ ([frame.header.1.code, 0] ++
        (beBytes 8 frame.header.2.1.toNat ++ (beBytes 8 frame.header.2.2.1.toNat ++
          (beBytes 8 frame.header.2.2.2.toNat ++ (beBytes 4 frame.bytes.length ++ frame.bytes))))))) := by
    cases frame <;> rfl
  rw [hencode]
  split_ifs with hlong
  · exact ⟨fun h => (nomatch h), fun h => absurd h.1 (Nat.not_le.mpr hlong)⟩
  · rw [Except.ok.injEq]
    exact ⟨fun h => ⟨Nat.not_lt.mp hlong, h.symm⟩, fun h => h.2.symm⟩

theorem ofParts_eq_ok {version declared : Nat} {primary secondary totalBytes : UInt64} :
    ofParts m version code flags primary secondary totalBytes declared payload = .ok frame ↔
      m = magic ∧ version = terminalWebProtocolVersion ∧ flags = 0 ∧ declared ≤ maxTerminalWebPayloadBytes ∧
        declared = payload.length ∧ frame.bytes = payload ∧ code = frame.header.1.code ∧
          frame.header.2 = (primary, secondary, totalBytes) := by
  unfold ofParts
  simp only [bind_eq_ok, refuse_eq_ok, tryFrom_eq_ok, ne_eq, not_not, Nat.not_lt]
  constructor
  · rintro ⟨_, hmagic, _, hversion, kind, hkind, _, hflags, _, hlong, _, hdeclared, h⟩
    refine ⟨hmagic, hversion, hflags, hlong, hdeclared, ?_⟩
    cases kind with
    | input =>
        obtain ⟨_, hunused, hframe⟩ := bind_eq_ok.mp h
        obtain ⟨rfl, rfl⟩ := requireUnusedMetadata_eq_ok.mp hunused
        obtain rfl := Except.ok.inj hframe
        exact ⟨rfl, hkind, rfl⟩
    | output =>
        obtain ⟨_, hunused, hframe⟩ := bind_eq_ok.mp h
        obtain ⟨rfl, rfl⟩ := requireUnusedMetadata_eq_ok.mp hunused
        obtain rfl := Except.ok.inj hframe
        exact ⟨rfl, hkind, rfl⟩
    | snapshot =>
        obtain rfl := Except.ok.inj h
        exact ⟨rfl, hkind, rfl⟩
  · rintro ⟨hmagic, hversion, hflags, hlong, hdeclared, hpayload, hkind, hheader⟩
    refine ⟨(), hmagic, (), hversion, frame.header.1, hkind, (), hflags, (), hlong, (), hdeclared, ?_⟩
    subst hpayload
    cases frame with
    | input sequence bytes =>
        obtain ⟨rfl, rfl, rfl⟩ : sequence = primary ∧ 0 = secondary ∧ 0 = totalBytes := by
          simpa [BinaryFrame.header] using hheader
        rfl
    | output sequence bytes =>
        obtain ⟨rfl, rfl, rfl⟩ : sequence = primary ∧ 0 = secondary ∧ 0 = totalBytes := by
          simpa [BinaryFrame.header] using hheader
        rfl
    | snapshot baseSequence nextSequence total bytes =>
        obtain ⟨rfl, rfl, rfl⟩ : baseSequence = primary ∧ nextSequence = secondary ∧ total = totalBytes := by
          simpa [BinaryFrame.header] using hheader
        rfl

theorem decode_eq_ok_iff : decodeTerminalWebBinary bytes = .ok frame ↔ encodeTerminalWebBinary frame = .ok bytes := by
  rw [encode_eq_ok]
  constructor
  · intro h
    by_cases hshort : bytes.length < headerLen
    · rw [decode_short hshort] at h
      exact nomatch h
    · obtain ⟨m, v₀, v₁, code, flags, p, s, t, d, payload, hbytes, hm, hp, hs, ht, hd⟩ :=
        exists_parts (Nat.not_lt.mp hshort)
      rw [decode_parts hm hp hs ht hd hbytes, ofParts_eq_ok] at h
      obtain ⟨rfl, hversion, rfl, hlong, hdeclared, rfl, rfl, hheader⟩ := h
      refine ⟨hdeclared ▸ hlong, ?_⟩
      rw [hheader, beBytes_ofNat hp, beBytes_ofNat hs, beBytes_ofNat ht, ← hdeclared, beBytes_beNat_of_length hd,
        ← hversion, beBytes_beNat_of_length (show [v₀, v₁].length = 2 from rfl)]
      exact hbytes
  · intro ⟨hlong, hbytes⟩
    have hfits : beNat (beBytes 4 frame.bytes.length) = frame.bytes.length := by
      refine beNat_beBytes_of_lt (hlong.trans_lt ?_)
      decide
    rw [decode_parts rfl (length_beBytes 8 _) (length_beBytes 8 _) (length_beBytes 8 _) (length_beBytes 4 _) hbytes,
      ofParts_eq_ok, ofNat_beBytes, ofNat_beBytes, ofNat_beBytes, hfits]
    exact ⟨rfl, by decide, rfl, hlong, rfl, rfl, rfl, rfl⟩

theorem faultless_ofParts {version declared : Nat} {primary secondary totalBytes : UInt64} :
    Faultless (ofParts m version code flags primary secondary totalBytes declared payload) := by
  have hkind : Faultless (BinaryKind.tryFrom code) := by
    unfold BinaryKind.tryFrom
    split_ifs
    · exact faultless_ok _
    · exact faultless_ok _
    · exact faultless_ok _
    · exact faultless_error _
  have hunused (kind : String) : Faultless (requireUnusedMetadata kind secondary totalBytes) := by
    unfold requireUnusedMetadata
    split_ifs
    · exact faultless_ok _
    · exact faultless_error _
  unfold ofParts
  refine (faultless_refuse _ _).bind fun _ => (faultless_refuse _ _).bind fun _ => hkind.bind fun kind =>
    (faultless_refuse _ _).bind fun _ => (faultless_refuse _ _).bind fun _ => (faultless_refuse _ _).bind fun _ => ?_
  cases kind with
  | input => exact (hunused _).bind fun _ => faultless_ok _
  | output => exact (hunused _).bind fun _ => faultless_ok _
  | snapshot => exact faultless_ok _

/-- The decoder stays within the bounds of every byte string. -/
theorem faultless_decode (bytes : List UInt8) : Faultless (decodeTerminalWebBinary bytes) := by
  by_cases hshort : bytes.length < headerLen
  · rw [decode_short hshort]
    exact faultless_error _
  · obtain ⟨m, v₀, v₁, code, flags, p, s, t, d, payload, hbytes, hm, hp, hs, ht, hd⟩ :=
      exists_parts (Nat.not_lt.mp hshort)
    rw [decode_parts hm hp hs ht hd hbytes]
    exact faultless_ofParts

/-- **Main result.** A frame within the bound decodes from its encoding, a byte string that decodes is the encoding
of what it decodes to, so no two of them decode to the same frame, and every other one is rejected with an error. -/
theorem terminalWebBinary_inverse :
    (∀ frame : BinaryFrame, frame.bytes.length ≤ maxTerminalWebPayloadBytes →
      ∃ bytes, encodeTerminalWebBinary frame = .ok bytes ∧ decodeTerminalWebBinary bytes = .ok frame) ∧
    (∀ bytes frame, decodeTerminalWebBinary bytes = .ok frame → encodeTerminalWebBinary frame = .ok bytes) ∧
    (∀ bytes bytes' frame, decodeTerminalWebBinary bytes = .ok frame → decodeTerminalWebBinary bytes' = .ok frame →
      bytes = bytes') ∧
    (∀ bytes, (∀ frame, encodeTerminalWebBinary frame ≠ .ok bytes) →
      ∃ error, decodeTerminalWebBinary bytes = .error (.error error)) := by
  refine ⟨fun frame hlong => ?_, fun bytes frame => decode_eq_ok_iff.mp, fun bytes bytes' frame h h' => ?_,
    fun bytes hno => ?_⟩
  · have hencode := encode_eq_ok.mpr ⟨hlong, rfl⟩
    exact ⟨_, hencode, decode_eq_ok_iff.mpr hencode⟩
  · exact Except.ok.inj ((decode_eq_ok_iff.mp h).symm.trans (decode_eq_ok_iff.mp h'))
  · cases hdecode : decodeTerminalWebBinary bytes with
    | ok frame => exact absurd (decode_eq_ok_iff.mp hdecode) (hno frame)
    | error stop =>
        cases stop with
        | fault => exact absurd hdecode (faultless_decode bytes)
        | error e => exact ⟨e, rfl⟩

-- the golden vector that the browser shares
example : encodeTerminalWebBinary (.input 42 [0, 27, 255]) =
    .ok [72, 84, 87, 83, 0, 3, 1, 0, 0, 0, 0, 0, 0, 0, 0, 42, 0, 0, 0, 0, 0, 0, 0, 0, 0, 0, 0, 0, 0, 0, 0, 0, 0, 0, 0, 3,
      0, 27, 255] := by decide

end HyperTerm.Protocol.TerminalWeb
