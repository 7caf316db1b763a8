import HyperTerm.Protocol.Ids

/-!
# Frames of the local socket

A frame is a header of twelve bytes and a payload of bounded length. The payload of a control frame is JSON, that of a
terminal frame a fixed header and the bytes of the terminal.

* `encodeTerminalData`, `encodeTerminalInput`, `encodeTerminalSnapshot` : the payloads of terminal frames;
* `writeFrame` : the bytes of a frame, or the error for a payload above its maximum.
-/

namespace HyperTerm.Protocol

/-- `to_be_bytes` of a number of `length` bytes. -/
def beBytes : Nat → Nat → List UInt8
  | 0, _ => []
  | length + 1, n => UInt8.ofNat (n / 256 ^ length % 256) :: beBytes length n

@[simp] theorem length_beBytes (length n : Nat) : (beBytes length n).length = length := by
  induction length with
  | zero => rfl
  | succ length ih => rw [beBytes, List.length_cons, ih]

def Uuid.bytes (u : Uuid) : List UInt8 := beBytes 16 u.toNat

/-- "HTRM". -/
def wireMagic : List UInt8 := [72, 84, 82, 77]

def protocolVersion : Nat := 11

def maxControlFrameBytes : Nat := 3 * 1024 * 1024

def maxTerminalFrameBytes : Nat := 256 * 1024

inductive FrameKind where
  | control
  | terminalInput
  | terminalOutput
  | terminalSnapshot
  deriving DecidableEq

def FrameKind.code : FrameKind → UInt8
  | control => 1
  | terminalInput => 16
  | terminalOutput => 17
  | terminalSnapshot => 18

def FrameKind.maximum : FrameKind → Nat
  | control => maxControlFrameBytes
  | terminalInput | terminalOutput | terminalSnapshot => maxTerminalFrameBytes

structure TerminalDataFrame where
  terminalId : TerminalId
  sequence : Nat
  bytes : List UInt8

structure TerminalInputFrame where
  terminalId : TerminalId
  leaseId : InputLeaseId
  sequence : Nat
  bytes : List UInt8

structure TerminalSnapshotFrame where
  terminalId : TerminalId
  baseSequence : Nat
  nextSequence : Nat
  totalBytes : Nat
  bytes : List UInt8

/-- `control` stands for a request or a response, by the JSON that serde makes of it. -/
inductive WireFrame where
  | control (json : List UInt8)
  | terminalInput (frame : TerminalInputFrame)
  | terminalOutput (frame : TerminalDataFrame)
  | terminalSnapshot (frame : TerminalSnapshotFrame)

inductive WireError where
  | frameTooLarge (actual maximum : Nat)

def encodeTerminalData (frame : TerminalDataFrame) : List UInt8 :=
  frame.terminalId.uuid.bytes ++ beBytes 8 frame.sequence ++ frame.bytes

def encodeTerminalInput (frame : TerminalInputFrame) : List UInt8 :=
  frame.terminalId.uuid.bytes ++ frame.leaseId.uuid.bytes ++ beBytes 8 frame.sequence ++ frame.bytes

def encodeTerminalSnapshot (frame : TerminalSnapshotFrame) : List UInt8 :=
  frame.terminalId.uuid.bytes ++ beBytes 8 frame.baseSequence ++ beBytes 8 frame.nextSequence ++
    beBytes 8 frame.totalBytes ++ frame.bytes

def WireFrame.encode : WireFrame → FrameKind × List UInt8
  | control json => (.control, json)
  | terminalInput frame => (.terminalInput, encodeTerminalInput frame)
  | terminalOutput frame => (.terminalOutput, encodeTerminalData frame)
  | terminalSnapshot frame => (.terminalSnapshot, encodeTerminalSnapshot frame)

/-- What `write_frame` writes. -/
def writeFrame (frame : WireFrame) : Except WireError (List UInt8) :=
  let (kind, payload) := frame.encode
  if kind.maximum < payload.length then .error (.frameTooLarge payload.length kind.maximum)
  else .ok (wireMagic ++ beBytes 2 protocolVersion ++ [kind.code, 0] ++ beBytes 4 payload.length ++ payload)

/-! ## The room in a frame -/

theorem length_encodeTerminalData (frame : TerminalDataFrame) :
    (encodeTerminalData frame).length = 24 + frame.bytes.length := by
  unfold encodeTerminalData Uuid.bytes
  rw [List.length_append, List.length_append, length_beBytes, length_beBytes]

theorem length_encodeTerminalSnapshot (frame : TerminalSnapshotFrame) :
    (encodeTerminalSnapshot frame).length = 40 + frame.bytes.length := by
  unfold encodeTerminalSnapshot Uuid.bytes
  simp only [List.length_append, length_beBytes]

theorem isOk_writeFrame (frame : WireFrame) :
    (writeFrame frame).isOk = true ↔ frame.encode.2.length ≤ frame.encode.1.maximum := by
  unfold writeFrame
  dsimp only
  split_ifs with hlong
  · exact iff_of_false Bool.false_ne_true (Nat.not_le.mpr hlong)
  · exact iff_of_true rfl (Nat.not_lt.mp hlong)

theorem isOk_writeFrame_output (frame : TerminalDataFrame) :
    (writeFrame (.terminalOutput frame)).isOk = true ↔ 24 + frame.bytes.length ≤ maxTerminalFrameBytes := by
  rw [isOk_writeFrame, ← length_encodeTerminalData]
  rfl

theorem isOk_writeFrame_snapshot (frame : TerminalSnapshotFrame) :
    (writeFrame (.terminalSnapshot frame)).isOk = true ↔ 40 + frame.bytes.length ≤ maxTerminalFrameBytes := by
  rw [isOk_writeFrame, ← length_encodeTerminalSnapshot]
  rfl

end HyperTerm.Protocol
