import HyperTerm.Lib.Text
import HyperTerm.Protocol.Json

/-!
# The frames of the drivers

A driver exchanges JSON values over a pipe, each in a frame: a payload behind a `Content-Length` header, or a line.

* `DriverFraming.write` : the bytes of one value;
* `DriverFraming.read` : the next value of a stream, with what is left of it. `none` is the clean end of the stream.

A stream is the list of the bytes that are still to come. Numbers of bytes are 64 bits wide, and sums of them wrap.
-/

namespace HyperTerm.Drivers
open HyperTerm.Protocol HyperTerm.Lib

inductive DriverFraming where
  | contentLength
  | jsonLines
  deriving DecidableEq

inductive DriverError where
  | unexpectedEof
  | json
  | invalidFrame (message : String)
  | frameTooLarge (size maximum : Nat)
  deriving DecidableEq

/-- What the drivers rely on in an encoding of JSON: decoding inverts encoding, there is no raw line break in an encoded
value, and nothing is not a value. -/
structure JsonCodec where
  encode : Value → List UInt8
  decode : List UInt8 → Option Value
  decode_encode : ∀ v, decode (encode v) = some v
  noBreak : ∀ v, ∀ b ∈ encode v, b ≠ 10 ∧ b ≠ 13
  decode_nil : decode [] = none
  encode_null : encode .null = utf8 "null".toList

def maxHeaderBytes : Nat := 8 * 1024

def wrap (n : Nat) : Nat := n % 2 ^ 64

variable (codec : JsonCodec)

/-! ## Writing -/

def DriverFraming.write (framing : DriverFraming) (maxBytes : Nat) (value : Value) :
    Except DriverError (List UInt8) :=
  let payload := codec.encode value
  if maxBytes < payload.length then .error (.frameTooLarge payload.length maxBytes)
  else
    match framing with
    | .contentLength =>
        .ok (utf8 ("Content-Length: ".toList ++ Nat.toDigits 10 payload.length ++ "\r\n\r\n".toList) ++ payload)
    | .jsonLines => .ok (payload ++ [newline])

/-! ## Reading -/

abbrev Read (α : Type) := Except DriverError α × List UInt8

/-- `read_bounded_line`: a line of at most `limit` bytes. At the end of the stream it is empty. -/
def readBoundedLine (limit : Nat) (bytes : List UInt8) : Read (List UInt8) :=
  let line := (takeLine (bytes.take (wrap (limit + 1)))).1
  if limit < line.length then
    (.error (.invalidFrame "protocol line exceeds the configured bound"), bytes.drop line.length)
  else (.ok line, bytes.drop line.length)

/-- A line that is read is what is gone from the stream. -/
theorem readBoundedLine_append {limit : Nat} {bytes line rest : List UInt8}
    (h : readBoundedLine limit bytes = (.ok line, rest)) : bytes = line ++ rest := by
  unfold readBoundedLine at h
  dsimp only at h
  split at h
  · cases h
  · obtain ⟨hline, rfl⟩ := Prod.mk.inj h
    obtain rfl := Except.ok.inj hline
    have hprefixed := (takeLine_isPrefix (bytes.take (wrap (limit + 1)))).trans (List.take_prefix _ _)
    exact (List.prefix_iff_eq_append.mp hprefixed).symm

/-- The name and the value of a header. -/
def splitHeader (line : List UInt8) : Except DriverError (List Char × List Char) :=
  match fromUtf8 line with
  | none => .error (.invalidFrame "header is not UTF-8")
  | some chars =>
      match splitOnce ':' (trimEnd chars) with
      | none => .error (.invalidFrame "malformed content-length header")
      | some header => .ok header

def isContentLength (name : List Char) : Bool := name.map Char.toLower = "content-length".toList

def parseLength (value : List Char) : Option Nat := parseNat (2 ^ 64) (trim value)

/-- The headers of a frame, and the length they declare; `none` at the end of the stream. -/
def readHeaders (bytes : List UInt8) (contentLength : Option Nat) (headerBytes : Nat) :
    Read (Option (Option Nat)) :=
  match hline : readBoundedLine maxHeaderBytes bytes with
  | (.error e, rest) => (.error e, rest)
  | (.ok line, rest) =>
      if hend : line = [] then
        if headerBytes = 0 then (.ok none, rest)
        else (.error (.invalidFrame "content-length header ended before its blank line"), rest)
      else if maxHeaderBytes < headerBytes + line.length then
        (.error (.invalidFrame "content-length headers exceed the configured bound"), rest)
      else if line = [newline] ∨ line = [13, newline] then (.ok (some contentLength), rest)
      else
        match splitHeader line with
        | .error e => (.error e, rest)
        | .ok (name, value) =>
            if isContentLength name then
              if contentLength.isSome then (.error (.invalidFrame "duplicate content-length header"), rest)
              else
                match parseLength value with
                | none => (.error (.invalidFrame "invalid content-length value"), rest)
                | some length => readHeaders rest (some length) (headerBytes + line.length)
            else readHeaders rest contentLength (headerBytes + line.length)
termination_by bytes.length
decreasing_by
  all_goals
    have hsplit := congrArg List.length (readBoundedLine_append hline)
    have hpos := List.length_pos_of_ne_nil hend
    rw [List.length_append] at hsplit
    omega

def readContentLength (maxBytes : Nat) (bytes : List UInt8) : Read (Option Value) :=
  match readHeaders bytes none 0 with
  | (.error e, rest) => (.error e, rest)
  | (.ok none, rest) => (.ok none, rest)
  | (.ok (some none), rest) => (.error (.invalidFrame "missing content-length header"), rest)
  | (.ok (some (some length)), rest) =>
      if maxBytes < length then (.error (.frameTooLarge length maxBytes), rest)
      else if rest.length < length then (.error .unexpectedEof, [])
      else
        match codec.decode (rest.take length) with
        | none => (.error .json, rest.drop length)
        | some value => (.ok (some value), rest.drop length)

def dropLast (b : UInt8) (bytes : List UInt8) : List UInt8 :=
  if bytes.getLast? = some b then bytes.dropLast else bytes

def readJsonLine (maxBytes : Nat) (bytes : List UInt8) : Read (Option Value) :=
  match readBoundedLine (wrap (maxBytes + 2)) bytes with
  | (.error e, rest) => (.error e, rest)
  | (.ok line, rest) =>
      if line = [] then (.ok none, rest)
      else
        let line := dropLast 13 (dropLast newline line)
        if maxBytes < line.length then (.error (.frameTooLarge line.length maxBytes), rest)
        else if line = [] then (.error (.invalidFrame "empty JSON line"), rest)
        else
          match codec.decode line with
          | none => (.error .json, rest)
          | some value => (.ok (some value), rest)

def DriverFraming.read (framing : DriverFraming) (maxBytes : Nat) (bytes : List UInt8) : Read (Option Value) :=
  match framing with
  | .contentLength => readContentLength codec maxBytes bytes
  | .jsonLines => readJsonLine codec maxBytes bytes

/-! ## What a codec of frames is for -/

/-- The stream is these values, one after the other, and then ends. -/
inductive ReadsAll (framing : DriverFraming) (maxBytes : Nat) : List UInt8 → List Value → Prop
  | done {bytes rest : List UInt8} (h : framing.read codec maxBytes bytes = (.ok none, rest)) :
      ReadsAll framing maxBytes bytes []
  | next {bytes rest : List UInt8} {value : Value} {values : List Value}
      (h : framing.read codec maxBytes bytes = (.ok (some value), rest)) (hrest : ReadsAll framing maxBytes rest values) :
      ReadsAll framing maxBytes bytes (value :: values)

/-- A line with its newline at its end only. -/
def IsLine (line : List UInt8) : Prop := ∃ body, newline ∉ body ∧ line = body ++ [newline]

/-- Headers, and the lengths they declare. -/
inductive Declare : List (List UInt8) → List Nat → Prop
  | nil : Declare [] []
  | length {line : List UInt8} {lines : List (List UInt8)} {name value : List Char} {n : Nat} {ns : List Nat}
      (hline : IsLine line) (hsplit : splitHeader line = .ok (name, value)) (hname : isContentLength name = true)
      (hvalue : parseLength value = some n) (h : Declare lines ns) : Declare (line :: lines) (n :: ns)
  | other {line : List UInt8} {lines : List (List UInt8)} {name value : List Char} {ns : List Nat}
      (hline : IsLine line) (hsplit : splitHeader line = .ok (name, value)) (hname : isContentLength name = false)
      (h : Declare lines ns) : Declare (line :: lines) ns

/-- One frame, its payload, and what follows it in the stream. The last line of a stream may lack its newline. -/
inductive IsFrame : DriverFraming → List UInt8 → List UInt8 → List UInt8 → Prop
  | contentLength {headers : List (List UInt8)} {blank payload : List UInt8} (rest : List UInt8)
      (hblank : blank = [newline] ∨ blank = [13, newline]) (h : Declare headers [payload.length]) :
      IsFrame .contentLength (headers.flatten ++ blank ++ payload) payload rest
  | line {body : List UInt8} (rest : List UInt8) (h : newline ∉ body) :
      IsFrame .jsonLines (body ++ [newline]) (dropLast 13 body) rest
  | lastLine {body : List UInt8} (h : newline ∉ body) (hne : body ≠ []) : IsFrame .jsonLines body (dropLast 13 body) []

/-- A written list of values is read back, a successful read takes one frame within the bound, and nothing but the end
of the stream is reported as its end. -/
structure CodecSound (framing : DriverFraming) (maxBytes : Nat) : Prop where
  roundTrip : ∀ values frames, values.mapM (framing.write codec maxBytes) = .ok frames →
    ReadsAll codec framing maxBytes frames.flatten values
  oneFrame : ∀ bytes value rest, framing.read codec maxBytes bytes = (.ok (some value), rest) →
    ∃ frame payload, bytes = frame ++ rest ∧ IsFrame framing frame payload rest ∧
      codec.decode payload = some value ∧ payload.length ≤ maxBytes
  cleanEnd : ∀ bytes rest, framing.read codec maxBytes bytes = (.ok none, rest) → bytes = []

end HyperTerm.Drivers
