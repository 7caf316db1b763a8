import HyperTerm.Lib.InPlace
import HyperTerm.Lib.Result
import HyperTerm.Protocol.BigEndian

/-!
# Streams of frames

`readFrame` takes one frame off the front of a stream, `Wire.writeFrame` is its counterpart. A frame carries requests
and responses through the JSON that serde makes of them (`ControlJson`), terminal data in a binary layout.

* `readFrame_eq_ok` : what a stream looks like whose first frame is read. The byte after the kind is arbitrary;
* `readFrames_writeFrames` : reading takes a stream apart into the frames it was written from;
* `exact_iff` : an accepted terminal frame is what `writeFrame` would write if and only if that byte is zero.
-/

namespace HyperTerm.Protocol.Wire
open HyperTerm.Lib

/-! ## Frames -/

inductive ControlWire (Request Response : Type) where
  | request (request : Request)
  | response (response : Response)
  deriving DecidableEq

inductive Error where
  | unexpectedEof
  | invalidMagic
  | unsupportedVersion (version : Nat)
  | unknownFrameKind (kind : UInt8)
  | frameTooLarge (actual maximum : Nat)
  | truncatedTerminalFrame
  | json (message : String)
  | invalidControlShape (message : String)
  deriving DecidableEq

/-- `serde_json` for control envelopes: what it writes reads back. -/
structure ControlJson (Request Response : Type) where
  toVec : ControlWire Request Response → Except String (List UInt8)
  fromSlice : List UInt8 → Except String (ControlWire Request Response)
  fromSlice_toVec : ∀ control json, toVec control = .ok json → fromSlice json = .ok control

/-- The numbers of the frame are 64-bit. -/
abbrev InputFrame : Type := { frame : TerminalInputFrame // frame.sequence < 2 ^ 64 }

abbrev DataFrame : Type := { frame : TerminalDataFrame // frame.sequence < 2 ^ 64 }

abbrev SnapshotFrame : Type :=
  { frame : TerminalSnapshotFrame //
    frame.baseSequence < 2 ^ 64 ∧ frame.nextSequence < 2 ^ 64 ∧ frame.totalBytes < 2 ^ 64 }

/-- `WireFrame` of the source, with its control envelopes. -/
inductive Frame (Request Response : Type) where
  | request (request : Request)
  | response (response : Response)
  | terminalInput (frame : InputFrame)
  | terminalOutput (frame : DataFrame)
  | terminalSnapshot (frame : SnapshotFrame)

variable {Request Response : Type}

def Frame.isTerminal : Frame Request Response → Bool
  | request _ | response _ => false
  | terminalInput _ | terminalOutput _ | terminalSnapshot _ => true

/-! ## Writing -/

variable (json : ControlJson Request Response)

/-- The frame with the JSON of its envelope. -/
def toWire : Frame Request Response → Except Error WireFrame
  | .request r => ((json.toVec (.request r)).mapError Error.json).map WireFrame.control
  | .response r => ((json.toVec (.response r)).mapError Error.json).map WireFrame.control
  | .terminalInput frame => .ok (.terminalInput frame.1)
  | .terminalOutput frame => .ok (.terminalOutput frame.1)
  | .terminalSnapshot frame => .ok (.terminalSnapshot frame.1)

def Error.ofWire : WireError → Error
  | .frameTooLarge actual maximum => frameTooLarge actual maximum

def writeFrame (frame : Frame Request Response) : Except Error (List UInt8) := do
  let wire ← toWire json frame
  (Protocol.writeFrame wire).mapError Error.ofWire

/-- The bytes of a header, with any byte after the kind, and of its payload. -/
def framed (kind : FrameKind) (reserved : UInt8) (payload : List UInt8) : List UInt8 :=
  wireMagic ++ (beBytes 2 protocolVersion ++ ([kind.code, reserved] ++ (beBytes 4 payload.length ++ payload)))

/-! ## Reading -/

def FrameKind.tryFrom (value : UInt8) : Except Error FrameKind :=
  if value = 1 then .ok .control
  else if value = 16 then .ok .terminalInput
  else if value = 17 then .ok .terminalOutput
  else if value = 18 then .ok .terminalSnapshot
  else .error (.unknownFrameKind value)

/-- `u64::from_be_bytes(payload[from..from + 8])`. -/
def readU64 (payload : List UInt8) (offset : Nat) : Nat := beNat ((payload.drop offset).take 8)

/-- `Uuid::from_slice(&payload[offset..offset + 16])`. -/
def uuidAt (payload : List UInt8) (offset : Nat) : Uuid := BitVec.ofNat 128 (beNat ((payload.drop offset).take 16))

theorem readU64_lt (payload : List UInt8) (offset : Nat) : readU64 payload offset < 2 ^ 64 := by
  refine (beNat_lt _).trans_le ?_
  rw [show 2 ^ 64 = 256 ^ 8 by decide]
  exact Nat.pow_le_pow_right (by decide) (List.length_take_le _ _)

def decodeTerminalInput (payload : List UInt8) : Except Error InputFrame :=
  if payload.length < 40 then .error .truncatedTerminalFrame
  else .ok ⟨⟨⟨uuidAt payload 0⟩, ⟨uuidAt payload 16⟩, readU64 payload 32, payload.drop 40⟩, readU64_lt payload 32⟩

def decodeTerminalData (payload : List UInt8) : Except Error DataFrame :=
  if payload.length < 24 then .error .truncatedTerminalFrame
  else .ok ⟨⟨⟨uuidAt payload 0⟩, readU64 payload 16, payload.drop 24⟩, readU64_lt payload 16⟩

def decodeTerminalSnapshot (payload : List UInt8) : Except Error SnapshotFrame :=
  if payload.length < 40 then .error .truncatedTerminalFrame
  else
    .ok ⟨⟨⟨uuidAt payload 0⟩, readU64 payload 16, readU64 payload 24, readU64 payload 32, payload.drop 40⟩,
      readU64_lt payload 16, readU64_lt payload 24, readU64_lt payload 32⟩

def decodePayload (kind : FrameKind) (payload : List UInt8) : Except Error (Frame Request Response) :=
  match kind with
  | .control =>
      match json.fromSlice payload with
      | .error message => .error (.json message)
      | .ok (.request request) => .ok (.request request)
      | .ok (.response response) => .ok (.response response)
  | .terminalInput => (decodeTerminalInput payload).map .terminalInput
  | .terminalOutput => (decodeTerminalData payload).map .terminalOutput
  | .terminalSnapshot => (decodeTerminalSnapshot payload).map .terminalSnapshot

/-- The reader is the bytes that are still to come. -/
abbrev Reading := InPlace (List UInt8) Error

def readExact (n : Nat) : Reading (List UInt8) := do
  let bytes ← InPlace.self
  InPlace.refuseIf (bytes.length < n) .unexpectedEof
  modify fun bytes => bytes.drop n
  return bytes.take n

def readFrame : Reading (Frame Request Response) := do
  let header ← readExact 12
  InPlace.refuseIf (header.take 4 ≠ wireMagic) .invalidMagic
  let version := beNat ((header.drop 4).take 2)
  InPlace.refuseIf (version ≠ protocolVersion) (.unsupportedVersion version)
  -- `header[7]` is read into the array and not looked at
  let kind ← InPlace.ofExcept (FrameKind.tryFrom (header.getD 6 0))
  let length := beNat ((header.drop 8).take 4)
  InPlace.refuseIf (kind.maximum < length) (.frameTooLarge length kind.maximum)
  let payload ← readExact length
  InPlace.ofExcept (decodePayload json kind payload)

/-- `n` frames, one after the other. -/
def readFrames : Nat → Reading (List (Frame Request Response))
  | 0 => return []
  | n + 1 => do
      let frame ← readFrame json
      let frames ← readFrames n
      return frame :: frames

/-! ## Payloads -/

theorem take_drop_append {α : Type} (l : List α) (offset n : Nat) :
    (l.drop offset).take n ++ l.drop (offset + n) = l.drop offset := by
  rw [← List.drop_drop, List.take_append_drop]

theorem uuidAt_eq {payload rest : List UInt8} {offset : Nat} {u : Uuid}
    (h : payload.drop offset = u.bytes ++ rest) : uuidAt payload offset = u := by
  have htake : (payload.drop offset).take 16 = u.bytes := by
    rw [h]
    exact List.take_left' (length_beBytes 16 _)
  rw [uuidAt, htake, Uuid.bytes, beNat_beBytes_of_lt u.isLt, BitVec.ofNat_toNat, BitVec.setWidth_eq]

theorem readU64_eq {payload rest : List UInt8} {offset n : Nat} (h : payload.drop offset = beBytes 8 n ++ rest)
    (hn : n < 2 ^ 64) : readU64 payload offset = n := by
  have htake : (payload.drop offset).take 8 = beBytes 8 n := by
    rw [h]
    exact List.take_left' (length_beBytes 8 n)
  rw [readU64, htake, beNat_beBytes_of_lt hn]

theorem bytes_uuidAt {payload : List UInt8} {offset : Nat} (h : offset + 16 ≤ payload.length) :
    (uuidAt payload offset).bytes ++ payload.drop (offset + 16) = payload.drop offset := by
  have hlength : ((payload.drop offset).take 16).length = 16 := by
    rw [List.length_take_of_le]
    rw [List.length_drop]
    omega
  have hlt := beNat_lt ((payload.drop offset).take 16)
  rw [hlength, show 256 ^ 16 = 2 ^ 128 by decide] at hlt
  rw [uuidAt, Uuid.bytes, BitVec.toNat_ofNat, Nat.mod_eq_of_lt hlt, beBytes_beNat_of_length hlength, take_drop_append]

theorem beBytes_readU64 {payload : List UInt8} {offset : Nat} (h : offset + 8 ≤ payload.length) :
    beBytes 8 (readU64 payload offset) ++ payload.drop (offset + 8) = payload.drop offset := by
  have hlength : ((payload.drop offset).take 8).length = 8 := by
    rw [List.length_take_of_le]
    rw [List.length_drop]
    omega
  rw [readU64, beBytes_beNat_of_length hlength, take_drop_append]

theorem length_encodeTerminalInput (frame : TerminalInputFrame) :
    (encodeTerminalInput frame).length = 40 + frame.bytes.length := by
  unfold encodeTerminalInput Uuid.bytes
  simp only [List.length_append, length_beBytes]

/-- The rest of a list after a part of known length. -/
theorem drop_add_eq {α : Type} {l part rest : List α} {offset n : Nat} (h : l.drop offset = part ++ rest)
    (hpart : part.length = n) : l.drop (offset + n) = rest := by
  rw [← List.drop_drop, h]
  exact List.drop_left' hpart

theorem decodeTerminalInput_eq_ok {payload : List UInt8} {frame : InputFrame} :
    decodeTerminalInput payload = .ok frame ↔ payload = encodeTerminalInput frame.1 := by
  unfold decodeTerminalInput
  constructor
  · intro h
    split_ifs at h with hshort
    obtain rfl := Except.ok.inj h
    unfold encodeTerminalInput
    simp only [List.append_assoc]
    rw [beBytes_readU64 (by omega), bytes_uuidAt (by omega), bytes_uuidAt (by omega), List.drop_zero]
  · intro h
    obtain ⟨⟨terminalId, leaseId, sequence, bytes⟩, hsequence⟩ := frame
    have h₀ : payload.drop 0 = terminalId.uuid.bytes ++ (leaseId.uuid.bytes ++ (beBytes 8 sequence ++ bytes)) := by
      rw [h, List.drop_zero, encodeTerminalInput, List.append_assoc, List.append_assoc]
    have h₁₆ := drop_add_eq h₀ (length_beBytes 16 _)
    have h₃₂ := drop_add_eq h₁₆ (length_beBytes 16 _)
    have h₄₀ := drop_add_eq h₃₂ (length_beBytes 8 _)
    have hlength := congrArg List.length h
    rw [length_encodeTerminalInput] at hlength
    rw [if_neg (by omega)]
    congr 1
    refine Subtype.ext ?_
    show TerminalInputFrame.mk _ _ _ _ = _
    rw [uuidAt_eq h₀, uuidAt_eq h₁₆, readU64_eq h₃₂ hsequence, h₄₀]

theorem decodeTerminalData_eq_ok {payload : List UInt8} {frame : DataFrame} :
    decodeTerminalData payload = .ok frame ↔ payload = encodeTerminalData frame.1 := by
  unfold decodeTerminalData
  constructor
  · intro h
    split_ifs at h with hshort
    obtain rfl := Except.ok.inj h
    unfold encodeTerminalData
    simp only [List.append_assoc]
    rw [beBytes_readU64 (by omega), bytes_uuidAt (by omega), List.drop_zero]
  · intro h
    obtain ⟨⟨terminalId, sequence, bytes⟩, hsequence⟩ := frame
    have h₀ : payload.drop 0 = terminalId.uuid.bytes ++ (beBytes 8 sequence ++ bytes) := by
      rw [h, List.drop_zero, encodeTerminalData, List.append_assoc]
    have h₁₆ := drop_add_eq h₀ (length_beBytes 16 _)
    have h₂₄ := drop_add_eq h₁₆ (length_beBytes 8 _)
    have hlength := congrArg List.length h
    rw [length_encodeTerminalData] at hlength
    rw [if_neg (by omega)]
    congr 1
    refine Subtype.ext ?_
    show TerminalDataFrame.mk _ _ _ = _
    rw [uuidAt_eq h₀, readU64_eq h₁₆ hsequence, h₂₄]

theorem decodeTerminalSnapshot_eq_ok {payload : List UInt8} {frame : SnapshotFrame} :
    decodeTerminalSnapshot payload = .ok frame ↔ payload = encodeTerminalSnapshot frame.1 := by
  unfold decodeTerminalSnapshot
  constructor
  · intro h
    split_ifs at h with hshort
    obtain rfl := Except.ok.inj h
    unfold encodeTerminalSnapshot
    simp only [List.append_assoc]
    rw [beBytes_readU64 (by omega), beBytes_readU64 (by omega), beBytes_readU64 (by omega), bytes_uuidAt (by omega),
      List.drop_zero]
  · intro h
    obtain ⟨⟨terminalId, baseSequence, nextSequence, totalBytes, bytes⟩, hbase, hnext, htotal⟩ := frame
    have h₀ : payload.drop 0 = terminalId.uuid.bytes ++ (beBytes 8 baseSequence ++ (beBytes 8 nextSequence ++
        (beBytes 8 totalBytes ++ bytes))) := by
      rw [h, List.drop_zero, encodeTerminalSnapshot, List.append_assoc, List.append_assoc, List.append_assoc]
    have h₁₆ := drop_add_eq h₀ (length_beBytes 16 _)
    have h₂₄ := drop_add_eq h₁₆ (length_beBytes 8 _)
    have h₃₂ := drop_add_eq h₂₄ (length_beBytes 8 _)
    have h₄₀ := drop_add_eq h₃₂ (length_beBytes 8 _)
    have hlength := congrArg List.length h
    rw [length_encodeTerminalSnapshot] at hlength
    rw [if_neg (by omega)]
    congr 1
    refine Subtype.ext ?_
    show TerminalSnapshotFrame.mk _ _ _ _ _ = _
    rw [uuidAt_eq h₀, readU64_eq h₁₆ hbase, readU64_eq h₂₄ hnext, readU64_eq h₃₂ htotal, h₄₀]

/-! ## Payloads and frames -/

variable {json} {frame : Frame Request Response} {kind : FrameKind} {payload : List UInt8} {wire : WireFrame}

theorem toVec_of_control {control : ControlWire Request Response}
    (h : ((json.toVec control).mapError Error.json).map WireFrame.control = .ok wire) :
    ∃ payload, json.toVec control = .ok payload ∧ wire = .control payload := by
  cases hjson : json.toVec control with
  | error message =>
      rw [hjson] at h
      exact nomatch h
  | ok payload =>
      rw [hjson] at h
      exact ⟨payload, rfl, (Except.ok.inj h).symm⟩

/-- What is written decodes to the frame. -/
theorem decodePayload_encode (h : toWire json frame = .ok wire) :
    decodePayload json wire.encode.1 wire.encode.2 = .ok frame := by
  cases frame with
  | request r | response r =>
      obtain ⟨payload, hjson, rfl⟩ := toVec_of_control h
      show decodePayload json .control payload = _
      unfold decodePayload
      rw [json.fromSlice_toVec _ _ hjson]
  | terminalInput frame =>
      obtain rfl := Except.ok.inj h
      exact congrArg (Except.map Frame.terminalInput) (decodeTerminalInput_eq_ok.mpr rfl)
  | terminalOutput frame =>
      obtain rfl := Except.ok.inj h
      exact congrArg (Except.map Frame.terminalOutput) (decodeTerminalData_eq_ok.mpr rfl)
  | terminalSnapshot frame =>
      obtain rfl := Except.ok.inj h
      exact congrArg (Except.map Frame.terminalSnapshot) (decodeTerminalSnapshot_eq_ok.mpr rfl)

/-- What decodes to a terminal frame is what is written for it. -/
theorem encode_decodePayload (h : decodePayload json kind payload = .ok frame) (hterminal : frame.isTerminal = true) :
    ∃ wire, toWire json frame = .ok wire ∧ wire.encode = (kind, payload) := by
  unfold decodePayload at h
  cases kind with
  | control =>
      dsimp only at h
      split at h
      · exact nomatch h
      · obtain rfl := Except.ok.inj h
        exact nomatch hterminal
      · obtain rfl := Except.ok.inj h
        exact nomatch hterminal
  | terminalInput =>
      cases hdecode : decodeTerminalInput payload with
      | error e =>
          rw [hdecode] at h
          exact nomatch h
      | ok frame =>
          rw [hdecode] at h
          obtain rfl := Except.ok.inj h
          exact ⟨_, rfl, congrArg _ (decodeTerminalInput_eq_ok.mp hdecode).symm⟩
  | terminalOutput =>
      cases hdecode : decodeTerminalData payload with
      | error e =>
          rw [hdecode] at h
          exact nomatch h
      | ok frame =>
          rw [hdecode] at h
          obtain rfl := Except.ok.inj h
          exact ⟨_, rfl, congrArg _ (decodeTerminalData_eq_ok.mp hdecode).symm⟩
  | terminalSnapshot =>
      cases hdecode : decodeTerminalSnapshot payload with
      | error e =>
          rw [hdecode] at h
          exact nomatch h
      | ok frame =>
          rw [hdecode] at h
          obtain rfl := Except.ok.inj h
          exact ⟨_, rfl, congrArg _ (decodeTerminalSnapshot_eq_ok.mp hdecode).symm⟩

/-! ## Frames of a stream -/

theorem call_readExact {bytes part rest : List UInt8} {n : Nat} :
    (readExact n).call bytes = (.ok part, rest) ↔ bytes = part ++ rest ∧ part.length = n := by
  unfold readExact
  rw [InPlace.self_bind_eq_ok, InPlace.refuseIf_bind_eq_ok]
  constructor
  · intro ⟨hlong, h⟩
    obtain ⟨hpart, hrest⟩ := Prod.mk.inj h
    obtain rfl := Except.ok.inj hpart
    exact ⟨hrest ▸ (List.take_append_drop n bytes).symm, List.length_take_of_le (Nat.not_lt.mp hlong)⟩
  · intro ⟨hbytes, hpart⟩
    subst hbytes hpart
    refine ⟨by simp, ?_⟩
    show (Except.ok _, List.drop _ _) = _
    rw [List.take_left, List.drop_left]

theorem tryFrom_eq_ok {value : UInt8} : FrameKind.tryFrom value = .ok kind ↔ value = kind.code := by
  unfold FrameKind.tryFrom
  split_ifs with h₁ h₂ h₃ h₄
  · subst h₁
    cases kind <;> simp [Protocol.FrameKind.code]
  · subst h₂
    cases kind <;> simp [Protocol.FrameKind.code]
  · subst h₃
    cases kind <;> simp [Protocol.FrameKind.code]
  · subst h₄
    cases kind <;> simp [Protocol.FrameKind.code]
  · cases kind <;> simp [Protocol.FrameKind.code, h₁, h₂, h₃, h₄]

theorem maximum_lt (kind : FrameKind) : kind.maximum < 256 ^ 4 := by
  cases kind <;> decide

/-- A stream whose first frame is read: what stands after the kind does not matter. -/
theorem readFrame_eq_ok {bytes rest : List UInt8} : (readFrame json).call bytes = (.ok frame, rest) ↔
    ∃ kind reserved payload, payload.length ≤ kind.maximum ∧ decodePayload json kind payload = .ok frame ∧
      bytes = framed kind reserved payload ++ rest := by
  unfold readFrame
  rw [InPlace.call_bind_eq_ok]
  simp only [InPlace.refuseIf_bind_eq_ok, InPlace.ofExcept_bind_eq_ok, tryFrom_eq_ok, ne_eq, not_not, Nat.not_lt]
  constructor
  · intro ⟨header, rest₁, hheader, hmagic, hversion, kind, hkind, hlong, h⟩
    obtain ⟨payload, rest₂, hpayload, hend⟩ := InPlace.call_bind_eq_ok.mp h
    obtain ⟨hdecode, rfl⟩ := Prod.mk.inj hend
    obtain ⟨rfl, hheader⟩ := call_readExact.mp hheader
    obtain ⟨rfl, hlength⟩ := call_readExact.mp hpayload
    refine ⟨kind, header.getD 7 0, payload, hlength ▸ hlong, hdecode, ?_⟩
    match header, hheader with
    | [m₀, m₁, m₂, m₃, v₀, v₁, code, reserved, l₀, l₁, l₂, l₃], _ =>
        have hmagic : [m₀, m₁, m₂, m₃] = wireMagic := hmagic
        have hversion : beBytes 2 protocolVersion = [v₀, v₁] :=
          hversion ▸ beBytes_beNat_of_length (show [v₀, v₁].length = 2 from rfl)
        have hlength : beBytes 4 payload.length = [l₀, l₁, l₂, l₃] :=
          hlength ▸ beBytes_beNat_of_length (show [l₀, l₁, l₂, l₃].length = 4 from rfl)
        have hkind : code = kind.code := hkind
        unfold framed
        rw [← hmagic, hversion, hlength, ← hkind]
        rfl
  · intro ⟨kind, reserved, payload, hlong, hdecode, hbytes⟩
    have hfits : beNat (beBytes 4 payload.length) = payload.length :=
      beNat_beBytes_of_lt (hlong.trans_lt (maximum_lt kind))
    refine ⟨wireMagic ++ (beBytes 2 protocolVersion ++ ([kind.code, reserved] ++ beBytes 4 payload.length)),
      payload ++ rest, call_readExact.mpr ⟨by rw [hbytes, framed]; simp, rfl⟩, rfl, ?_, kind, rfl, ?_, ?_⟩
    · show beNat (beBytes 2 protocolVersion) = protocolVersion
      decide
    · exact hfits.le.trans hlong
    · refine InPlace.call_bind_eq_ok.mpr ⟨payload, rest, call_readExact.mpr ⟨rfl, hfits.symm⟩, ?_⟩
      exact congrArg (·, rest) hdecode

theorem writeFrame_eq_ok {bytes : List UInt8} : writeFrame json frame = .ok bytes ↔
    ∃ wire, toWire json frame = .ok wire ∧ wire.encode.2.length ≤ wire.encode.1.maximum ∧
      bytes = framed wire.encode.1 0 wire.encode.2 := by
  unfold writeFrame
  rw [bind_eq_ok]
  refine exists_congr fun wire => and_congr_right fun _ => ?_
  rw [mapError_eq_ok, Protocol.writeFrame]
  dsimp only
  split_ifs with hlong
  · exact ⟨fun h => (nomatch h), fun h => absurd h.1 (Nat.not_le.mpr hlong)⟩
  · rw [Except.ok.injEq, framed]
    simp only [List.append_assoc]
    exact ⟨fun h => ⟨Nat.not_lt.mp hlong, h.symm⟩, fun h => h.2.symm⟩

theorem readFrame_writeFrame {bytes : List UInt8} (h : writeFrame json frame = .ok bytes) (rest : List UInt8) :
    (readFrame json).call (bytes ++ rest) = (.ok frame, rest) := by
  obtain ⟨wire, hwire, hlong, rfl⟩ := writeFrame_eq_ok.mp h
  exact readFrame_eq_ok.mpr ⟨_, _, _, hlong, decodePayload_encode hwire, rfl⟩

/-- A stream of frames is read as it was written, and read to its end. -/
theorem readFrames_writeFrames {frames : List (Frame Request Response)} {encodings : List (List UInt8)}
    (h : List.Forall₂ (fun frame bytes => writeFrame json frame = .ok bytes) frames encodings) (rest : List UInt8) :
    (readFrames json frames.length).call (encodings.flatten ++ rest) = (.ok frames, rest) := by
  induction h with
  | nil => rfl
  | @cons frame bytes frames encodings hframe _ ih =>
      show (readFrame json >>= fun frame => readFrames json frames.length >>= fun frames => pure (frame :: frames)).call
        ((bytes :: encodings).flatten ++ rest) = _
      rw [List.flatten_cons, List.append_assoc, InPlace.call_bind_ok (readFrame_writeFrame hframe _),
        InPlace.call_bind_ok ih]
      rfl

/-- An accepted terminal frame is what `writeFrame` writes for it if and only if the byte after its kind is zero. -/
theorem exact_iff {bytes rest : List UInt8} (hread : (readFrame json).call bytes = (.ok frame, rest))
    (hterminal : frame.isTerminal = true) :
    (∃ encoding, writeFrame json frame = .ok encoding ∧ bytes = encoding ++ rest) ↔ bytes[7]? = some 0 := by
  obtain ⟨kind, reserved, payload, hlong, hdecode, rfl⟩ := readFrame_eq_ok.mp hread
  obtain ⟨wire, hwire, hencode⟩ := encode_decodePayload hdecode hterminal
  have hreserved (reserved : UInt8) : (framed kind reserved payload ++ rest)[7]? = some reserved := rfl
  have hwrite : writeFrame json frame = .ok (framed kind 0 payload) :=
    writeFrame_eq_ok.mpr ⟨wire, hwire, by rw [hencode]; exact hlong, by rw [hencode]⟩
  rw [hreserved]
  constructor
  · intro ⟨encoding, hencoding, hbytes⟩
    obtain rfl := Except.ok.inj (hwrite.symm.trans hencoding)
    rw [← hreserved reserved, hbytes, hreserved]
  · intro hzero
    exact ⟨_, hwrite, by rw [Option.some.inj hzero]⟩

/-- **Main result.** Reading a stream gives the frames it was written from and nothing is left of it; and a byte string
from which a terminal frame is read is what is written for that frame if and only if its eighth byte is zero. -/
theorem wireStream_inverse (json : ControlJson Request Response) :
    (∀ (frames : List (Frame Request Response)) (encodings : List (List UInt8)),
      List.Forall₂ (fun frame bytes => writeFrame json frame = .ok bytes) frames encodings →
        (readFrames json frames.length).call encodings.flatten = (.ok frames, []) ∧
          (readFrame json).call [] = (.error .unexpectedEof, [])) ∧
    ∀ bytes (frame : Frame Request Response) rest, frame.isTerminal = true →
      (readFrame json).call bytes = (.ok frame, rest) →
        ((∃ encoding, writeFrame json frame = .ok encoding ∧ bytes = encoding ++ rest) ↔ bytes[7]? = some 0) := by
  refine ⟨fun frames encodings h => ⟨?_, rfl⟩, fun bytes frame rest hterminal hread => exact_iff hread hterminal⟩
  have hframes := readFrames_writeFrames h []
  rwa [List.append_nil] at hframes

/-- Envelopes without content. -/
def bareJson : ControlJson Unit Unit where
  toVec
    | .request () => .ok [49]
    | .response () => .ok [50]
  fromSlice
    | [49] => .ok (.request ())
    | [50] => .ok (.response ())
    | _ => .error "expected an envelope"
  fromSlice_toVec control json h := by
    cases control <;> cases h <;> rfl

/-- An empty output frame with a reserved byte of one. -/
def reservedFrame : List UInt8 :=
  [72, 84, 82, 77, 0, 11, 17, 1, 0, 0, 0, 24] ++ List.replicate 24 0

/-- It is read, and not what is written for the frame that is read. -/
theorem reservedFrame_accepted : ¬∀ bytes (frame : Frame Unit Unit) rest, frame.isTerminal = true →
    (readFrame bareJson).call bytes = (.ok frame, rest) →
      ∃ encoding, writeFrame bareJson frame = .ok encoding ∧ bytes = encoding ++ rest := by
  intro h
  have hzeros : decodeTerminalData (List.replicate 24 0) = .ok ⟨⟨⟨0⟩, 0, []⟩, by decide⟩ := by rfl
  have hread : (readFrame bareJson).call reservedFrame = (.ok (.terminalOutput ⟨⟨⟨0⟩, 0, []⟩, by decide⟩), []) :=
    readFrame_eq_ok.mpr ⟨.terminalOutput, 1, List.replicate 24 0, by decide,
      congrArg (Except.map Frame.terminalOutput) hzeros, by decide⟩
  have hzero := (exact_iff hread rfl).mp (h _ _ _ rfl hread)
  exact absurd hzero (by decide)

end HyperTerm.Protocol.Wire
