import HyperTerm.Protocol.TerminalWeb

/-!
# The codec of the browser's terminal

The browser writes its input frames into a buffer of zeros and reads frames through a `DataView`, with its own copy of
the format and with the checks in another order.

* `encodeTerminalInput`, `decodeTerminalBinary` : the two functions of the source; an access beyond the buffer is a
  fault;
* `encode_parts`, `decode_client_parts` : what they make of the parts of a frame;
* `terminalCodecs_agree` : the browser and the server accept the same byte strings, read them alike and write the same
  input frames.
-/

namespace HyperTerm.Protocol.TerminalClient
open HyperTerm.Lib HyperTerm.Protocol.TerminalWeb

def terminalWebHeaderBytes : Nat := 36

/-- `TerminalWebBinaryFrame`, its numbers of type `bigint`. -/
inductive ClientFrame where
  | input (sequence : Nat) (bytes : List UInt8)
  | output (sequence : Nat) (bytes : List UInt8)
  | snapshot (baseSequence nextSequence totalBytes : Nat) (bytes : List UInt8)
  deriving DecidableEq

abbrev Scripted := Except (Stop String)

/-- `bytes.set(source, offset)`, and a `DataView` that writes the bytes of a number. -/
def setBytes (buffer : List UInt8) (offset : Nat) (source : List UInt8) : Scripted (List UInt8) :=
  if offset + source.length ≤ buffer.length then
    .ok (buffer.take offset ++ (source ++ buffer.drop (offset + source.length)))
  else .error .fault

def encodeTerminalInput (sequence : Nat) (payload : List UInt8) : Scripted (List UInt8) := do
  refuse (maxTerminalWebPayloadBytes < payload.length) s!"terminal input payload is too large: {payload.length}"
  let bytes := List.replicate (terminalWebHeaderBytes + payload.length) 0
  let bytes ← setBytes bytes 0 magic
  let bytes ← setBytes bytes 4 (beBytes 2 terminalWebProtocolVersion)
  let bytes ← setBytes bytes 6 [1]
  let bytes ← setBytes bytes 7 [0]
  let bytes ← setBytes bytes 8 (beBytes 8 sequence)
  let bytes ← setBytes bytes 16 (beBytes 8 0)
  let bytes ← setBytes bytes 24 (beBytes 8 0)
  let bytes ← setBytes bytes 32 (beBytes 4 payload.length)
  setBytes bytes terminalWebHeaderBytes payload

/-- `view.getUint16`, `view.getUint32`, `view.getBigUint64`. -/
def getUint (width : Nat) (bytes : List UInt8) (offset : Nat) : Scripted Nat := do
  return beNat (← slice bytes offset (offset + width))

def assertUnusedMetadata (kind : UInt8) (secondary totalBytes : Nat) : Scripted Unit :=
  refuse (secondary ≠ 0 ∨ totalBytes ≠ 0)
    s!"terminal WebSocket frame kind {kind.toNat} has unexpected metadata"

def decodeTerminalBinary (encoded : List UInt8) : Scripted ClientFrame := do
  refuse (encoded.length < terminalWebHeaderBytes) "truncated terminal WebSocket frame"
  refuse (magic.zipIdx.all (fun entry => encoded[entry.2]? = Option.some entry.1) = false)
    "invalid terminal WebSocket frame magic"
  let version ← getUint 2 encoded 4
  refuse (version ≠ terminalWebProtocolVersion) s!"unsupported terminal WebSocket protocol {version}"
  let kind ← index encoded 6
  let flags ← index encoded 7
  refuse (flags ≠ 0) "terminal WebSocket frame contains unsupported flags"
  let payloadLength ← getUint 4 encoded 32
  refuse (maxTerminalWebPayloadBytes < payloadLength) s!"terminal output payload is too large: {payloadLength}"
  refuse (payloadLength ≠ encoded.length - terminalWebHeaderBytes)
    "terminal WebSocket frame payload length does not match"
  let payload := encoded.drop terminalWebHeaderBytes
  let primary ← getUint 8 encoded 8
  let secondary ← getUint 8 encoded 16
  let totalBytes ← getUint 8 encoded 24
  if kind = 1 then do
    assertUnusedMetadata kind secondary totalBytes
    return .input primary payload
  else if kind = 2 then do
    assertUnusedMetadata kind secondary totalBytes
    return .output primary payload
  else if kind = 3 then return .snapshot primary secondary totalBytes payload
  else .error (.error s!"unknown terminal WebSocket frame kind {kind.toNat}")

/-- A frame of the server as the browser has it. -/
def shown : BinaryFrame → ClientFrame
  | .input sequence bytes => .input sequence.toNat bytes
  | .output sequence bytes => .output sequence.toNat bytes
  | .snapshot baseSequence nextSequence totalBytes bytes =>
      .snapshot baseSequence.toNat nextSequence.toNat totalBytes.toNat bytes

/-! ## Writing from left to right -/

variable {m p s t d payload bytes : List UInt8} {v₀ v₁ code flags : UInt8}

/-- A write right behind what has been written takes the next zeros. -/
theorem setBytes_zeros {filled source : List UInt8} {offset room : Nat} (left : Nat) (hoffset : filled.length = offset)
    (hroom : room = source.length + left) :
    setBytes (filled ++ List.replicate room 0) offset source =
      .ok ((filled ++ source) ++ List.replicate left 0) := by
  subst hoffset hroom
  unfold setBytes
  rw [if_pos (by simp), List.take_left, List.drop_length_add_append, List.drop_replicate, Nat.add_sub_cancel_left,
    List.append_assoc]

theorem encode_client_eq_ok {sequence : Nat} : encodeTerminalInput sequence payload = .ok bytes ↔
    payload.length ≤ maxTerminalWebPayloadBytes ∧
      bytes = magic ++ (beBytes 2 terminalWebProtocolVersion ++ ([1, 0] ++ (beBytes 8 sequence ++
        (beBytes 8 0 ++ (beBytes 8 0 ++ (beBytes 4 payload.length ++ payload)))))) := by
  have hzeros : List.replicate (terminalWebHeaderBytes + payload.length) (0 : UInt8) =
      [] ++ List.replicate (36 + payload.length) 0 := rfl
  have hwritten : (do
      let bytes ← setBytes (List.replicate (terminalWebHeaderBytes + payload.length) 0) 0 magic
      let bytes ← setBytes bytes 4 (beBytes 2 terminalWebProtocolVersion)
      let bytes ← setBytes bytes 6 [1]
      let bytes ← setBytes bytes 7 [0]
      let bytes ← setBytes bytes 8 (beBytes 8 sequence)
      let bytes ← setBytes bytes 16 (beBytes 8 0)
      let bytes ← setBytes bytes 24 (beBytes 8 0)
      let bytes ← setBytes bytes 32 (beBytes 4 payload.length)
      setBytes bytes terminalWebHeaderBytes payload) =
      .ok (magic ++ (beBytes 2 terminalWebProtocolVersion ++ ([1, 0] ++ (beBytes 8 sequence ++
        (beBytes 8 0 ++ (beBytes 8 0 ++ (beBytes 4 payload.length ++ payload))))))) := by
    rw [hzeros]
    refine bind_eq_ok.mpr ⟨_, setBytes_zeros (32 + payload.length) rfl (by simp [magic]; omega), ?_⟩
    refine bind_eq_ok.mpr ⟨_, setBytes_zeros (30 + payload.length) (by simp [magic]) (by simp; omega), ?_⟩
    refine bind_eq_ok.mpr ⟨_, setBytes_zeros (29 + payload.length) (by simp [magic]) (by simp; omega), ?_⟩
    refine bind_eq_ok.mpr ⟨_, setBytes_zeros (28 + payload.length) (by simp [magic]) (by simp; omega), ?_⟩
    refine bind_eq_ok.mpr ⟨_, setBytes_zeros (20 + payload.length) (by simp [magic]) (by simp; omega), ?_⟩
    refine bind_eq_ok.mpr ⟨_, setBytes_zeros (12 + payload.length) (by simp [magic]) (by simp; omega), ?_⟩
    refine bind_eq_ok.mpr ⟨_, setBytes_zeros (4 + payload.length) (by simp [magic]) (by simp; omega), ?_⟩
    refine bind_eq_ok.mpr ⟨_, setBytes_zeros payload.length (by simp [magic]) (by simp), ?_⟩
    refine (setBytes_zeros 0 (by simp [magic, terminalWebHeaderBytes]) (by simp)).trans ?_
    simp only [List.replicate_zero, List.append_nil, List.nil_append, List.append_assoc]
    rfl
  unfold encodeTerminalInput
  rw [bind_eq_ok, hwritten]
  simp only [refuse_eq_ok, Nat.not_lt, Except.ok.injEq]
  exact ⟨fun ⟨_, hlong, h⟩ => ⟨hlong, h.symm⟩, fun ⟨hlong, h⟩ => ⟨(), hlong, h.symm⟩⟩

/-! ## Reading the parts -/

theorem getUint_of_slice {width offset : Nat} {part : List UInt8} {stop : Nat} (hstop : offset + width = stop)
    (h : slice bytes offset stop = (.ok part : Scripted _)) : getUint width bytes offset = .ok (beNat part) := by
  subst hstop
  unfold getUint
  rw [h]
  rfl

/-- The browser compares the magic byte by byte. -/
theorem all_magic {rest : List UInt8} (hm : m.length = 4) :
    magic.zipIdx.all (fun entry => (m ++ rest)[entry.2]? = Option.some entry.1) = true ↔ m = magic := by
  match m, hm with
  | [a, b, c, e], _ => simp [magic, List.zipIdx]

theorem assertUnusedMetadata_eq_ok {kind : UInt8} {secondary totalBytes : Nat} {u : Unit} :
    assertUnusedMetadata kind secondary totalBytes = .ok u ↔ secondary = 0 ∧ totalBytes = 0 := by
  unfold assertUnusedMetadata
  rw [refuse_eq_ok, not_or, not_not, not_not]

theorem toNat_ofNat (hp : p.length = 8) : (UInt64.ofNat (beNat p)).toNat = beNat p := by
  have hlt := beNat_lt p
  rw [hp] at hlt
  exact UInt64.toNat_ofNat_of_lt' hlt

theorem ofNat_eq_zero (hp : p.length = 8) : UInt64.ofNat (beNat p) = 0 ↔ beNat p = 0 := by
  rw [← UInt64.toNat_inj, toNat_ofNat hp]
  rfl

variable {frame : ClientFrame}

/-- The last checks of the browser, about the kind and the metadata it does not use. -/
theorem kind_eq_ok (hp : p.length = 8) (hs : s.length = 8) (ht : t.length = 8) :
    (if code = 1 then do
        assertUnusedMetadata code (beNat s) (beNat t)
        return .input (beNat p) payload
      else if code = 2 then do
        assertUnusedMetadata code (beNat s) (beNat t)
        return .output (beNat p) payload
      else if code = 3 then return .snapshot (beNat p) (beNat s) (beNat t) payload
      else .error (.error s!"unknown terminal WebSocket frame kind {code.toNat}") : Scripted ClientFrame) = .ok frame ↔
      ∃ served : BinaryFrame, frame = shown served ∧ served.bytes = payload ∧ code = served.header.1.code ∧
        served.header.2 = (.ofNat (beNat p), .ofNat (beNat s), .ofNat (beNat t)) := by
  constructor
  · intro h
    split_ifs at h with hinput houtput hsnapshot
    · obtain ⟨_, hunused, hframe⟩ := bind_eq_ok.mp h
      obtain ⟨hs₀, ht₀⟩ := assertUnusedMetadata_eq_ok.mp hunused
      refine ⟨.input (.ofNat (beNat p)) payload, ?_, rfl, hinput, ?_⟩
      · rw [shown, toNat_ofNat hp]
        exact (Except.ok.inj hframe).symm
      · rw [hs₀, ht₀]
        rfl
    · obtain ⟨_, hunused, hframe⟩ := bind_eq_ok.mp h
      obtain ⟨hs₀, ht₀⟩ := assertUnusedMetadata_eq_ok.mp hunused
      refine ⟨.output (.ofNat (beNat p)) payload, ?_, rfl, houtput, ?_⟩
      · rw [shown, toNat_ofNat hp]
        exact (Except.ok.inj hframe).symm
      · rw [hs₀, ht₀]
        rfl
    · refine ⟨.snapshot (.ofNat (beNat p)) (.ofNat (beNat s)) (.ofNat (beNat t)) payload, ?_, rfl, hsnapshot, rfl⟩
      rw [shown, toNat_ofNat hp, toNat_ofNat hs, toNat_ofNat ht]
      exact (Except.ok.inj h).symm
  · rintro ⟨served, rfl, rfl, hcode, hheader⟩
    cases served with
    | input sequence bytes =>
        obtain rfl : code = 1 := hcode
        obtain ⟨rfl, hs₀, ht₀⟩ : sequence = .ofNat (beNat p) ∧ 0 = UInt64.ofNat (beNat s) ∧ 0 = UInt64.ofNat (beNat t) := by
          simpa [BinaryFrame.header] using hheader
        rw [if_pos rfl]
        refine bind_eq_ok.mpr ⟨(), assertUnusedMetadata_eq_ok.mpr
          ⟨(ofNat_eq_zero hs).mp hs₀.symm, (ofNat_eq_zero ht).mp ht₀.symm⟩, ?_⟩
        rw [shown, toNat_ofNat hp]
        rfl
    | output sequence bytes =>
        obtain rfl : code = 2 := hcode
        obtain ⟨rfl, hs₀, ht₀⟩ : sequence = .ofNat (beNat p) ∧ 0 = UInt64.ofNat (beNat s) ∧ 0 = UInt64.ofNat (beNat t) := by
          simpa [BinaryFrame.header] using hheader
        rw [if_neg (by decide), if_pos rfl]
        refine bind_eq_ok.mpr ⟨(), assertUnusedMetadata_eq_ok.mpr
          ⟨(ofNat_eq_zero hs).mp hs₀.symm, (ofNat_eq_zero ht).mp ht₀.symm⟩, ?_⟩
        rw [shown, toNat_ofNat hp]
        rfl
    | snapshot baseSequence nextSequence totalBytes bytes =>
        obtain rfl : code = 3 := hcode
        obtain ⟨rfl, rfl, rfl⟩ : baseSequence = .ofNat (beNat p) ∧ nextSequence = .ofNat (beNat s) ∧
            totalBytes = .ofNat (beNat t) := by
          simpa [BinaryFrame.header] using hheader
        rw [if_neg (by decide), if_neg (by decide), if_pos rfl, shown, toNat_ofNat hp, toNat_ofNat hs, toNat_ofNat ht]
        rfl

/-- The browser decodes what the parts allow, with its checks in another order than the server. -/
theorem decode_client_parts (hm : m.length = 4) (hp : p.length = 8) (hs : s.length = 8) (ht : t.length = 8)
    (hd : d.length = 4) (hbytes : bytes = m ++ v₀ :: v₁ :: code :: flags :: (p ++ (s ++ (t ++ (d ++ payload))))) :
    decodeTerminalBinary bytes = .ok frame ↔
      m = magic ∧ beNat [v₀, v₁] = terminalWebProtocolVersion ∧ flags = 0 ∧ beNat d ≤ maxTerminalWebPayloadBytes ∧
        beNat d = payload.length ∧ ∃ served : BinaryFrame, frame = shown served ∧ served.bytes = payload ∧
          code = served.header.1.code ∧ served.header.2 = (.ofNat (beNat p), .ofNat (beNat s), .ofNat (beNat t)) := by
  have hread := partsRead String hm hp hs ht hd hbytes
  have hlength : bytes.length - terminalWebHeaderBytes = payload.length := by
    rw [hread.length, terminalWebHeaderBytes]
    omega
  have hshort : ¬bytes.length < terminalWebHeaderBytes := by
    rw [hread.length, terminalWebHeaderBytes]
    omega
  have hdrop : bytes.drop terminalWebHeaderBytes = payload := hread.payload
  have hmagic : (magic.zipIdx.all fun entry => bytes[entry.2]? = Option.some entry.1) = true ↔ m = magic := by
    rw [hbytes]
    exact all_magic hm
  unfold decodeTerminalBinary
  rw [getUint_of_slice rfl hread.version, hread.code, hread.flags, getUint_of_slice rfl hread.declared,
    getUint_of_slice rfl hread.primary, getUint_of_slice rfl hread.secondary, getUint_of_slice rfl hread.totalBytes,
    hlength, hdrop]
  simp only [bind_eq_ok, refuse_eq_ok, Except.ok.injEq, exists_eq_left', Bool.not_eq_false, ne_eq, not_not, Nat.not_lt,
    hmagic, kind_eq_ok hp hs ht]
  constructor
  · rintro ⟨_, _, _, hmagic, _, hversion, _, hflags, _, hlong, _, hdeclared, hserved⟩
    exact ⟨hmagic, hversion, hflags, hlong, hdeclared, hserved⟩
  · rintro ⟨hmagic, hversion, hflags, hlong, hdeclared, hserved⟩
    exact ⟨(), Nat.not_lt.mp hshort, (), hmagic, (), hversion, (), hflags, (), hlong, (), hdeclared, hserved⟩

theorem decode_client_eq_ok : decodeTerminalBinary bytes = .ok frame ↔
    ∃ served, decodeTerminalWebBinary bytes = .ok served ∧ frame = shown served := by
  by_cases hshort : bytes.length < headerLen
  · have hrefused : refuse (bytes.length < terminalWebHeaderBytes) "truncated terminal WebSocket frame" =
        .error (.error "truncated terminal WebSocket frame") := if_pos hshort
    unfold decodeTerminalBinary
    rw [hrefused, decode_short hshort]
    exact ⟨fun h => (nomatch h), fun ⟨_, h, _⟩ => (nomatch h)⟩
  · obtain ⟨m, v₀, v₁, code, flags, p, s, t, d, payload, hbytes, hm, hp, hs, ht, hd⟩ :=
      exists_parts (Nat.not_lt.mp hshort)
    rw [decode_client_parts hm hp hs ht hd hbytes, decode_parts hm hp hs ht hd hbytes]
    simp only [ofParts_eq_ok]
    constructor
    · rintro ⟨hmagic, hversion, hflags, hlong, hdeclared, served, hframe, hpayload, hcode, hheader⟩
      exact ⟨served, ⟨hmagic, hversion, hflags, hlong, hdeclared, hpayload, hcode, hheader⟩, hframe⟩
    · rintro ⟨served, ⟨hmagic, hversion, hflags, hlong, hdeclared, hpayload, hcode, hheader⟩, hframe⟩
      exact ⟨hmagic, hversion, hflags, hlong, hdeclared, served, hframe, hpayload, hcode, hheader⟩

/-- **Main result.** The browser decodes a byte string exactly if the server does, to the frame with the same kind,
numbers and payload, and it fails to encode an input exactly if the server fails, and writes the same bytes. -/
theorem terminalCodecs_agree :
    (∀ (bytes : List UInt8) (frame : ClientFrame), decodeTerminalBinary bytes = .ok frame ↔
      ∃ served, decodeTerminalWebBinary bytes = .ok served ∧ frame = shown served) ∧
    ∀ (sequence : UInt64) (payload : List UInt8),
      ((∃ stop, encodeTerminalInput sequence.toNat payload = .error stop) ↔
        ∃ error, encodeTerminalWebBinary (.input sequence payload) = .error error) ∧
      ∀ bytes, encodeTerminalInput sequence.toNat payload = .ok bytes ↔
        encodeTerminalWebBinary (.input sequence payload) = .ok bytes := by
  refine ⟨fun bytes frame => decode_client_eq_ok, fun sequence payload => ?_⟩
  have hok (bytes : List UInt8) : encodeTerminalInput sequence.toNat payload = .ok bytes ↔
      encodeTerminalWebBinary (.input sequence payload) = .ok bytes := by
    rw [encode_client_eq_ok, encode_eq_ok]
    rfl
  refine ⟨?_, hok⟩
  constructor
  · rintro ⟨stop, hstop⟩
    cases hserved : encodeTerminalWebBinary (.input sequence payload) with
    | error error => exact ⟨error, rfl⟩
    | ok bytes =>
        rw [(hok bytes).mpr hserved] at hstop
        exact nomatch hstop
  · rintro ⟨error, herror⟩
    cases hclient : encodeTerminalInput sequence.toNat payload with
    | error stop => exact ⟨stop, rfl⟩
    | ok bytes =>
        rw [(hok bytes).mp hclient] at herror
        exact nomatch herror

end HyperTerm.Protocol.TerminalClient
