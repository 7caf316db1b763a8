import HyperTerm.Lib.Slices
import HyperTerm.Lib.Text
import HyperTerm.Lib.Windows

/-!
# The header of a CONNECT request

`readRequest` reads from a connection until it has seen a blank line, takes the header apart, and keeps what came after
the header in the same read: it belongs to the tunnel.

* `ByteStream` : a connection as the reads it will give;
* `WellFormed` : what a header is, and the method, authority and authorization that it names;
* `parseRequest_eq_ok`, `parseRequest_append` : the parser, and what more bytes after the blank line change;
* `readRequest_stream` : nothing depends on how a stream is cut into reads, and no byte of the tunnel is lost.
-/

namespace HyperTerm.Daemon.Proxy
open HyperTerm.Lib

def maxHeaderBytes : Nat := 16 * 1024

/-! ## Connections -/

inductive IoErrorKind where
  | invalidData
  | permissionDenied
  | unexpectedEof
  | other
  deriving DecidableEq

structure IoError where
  kind : IoErrorKind
  message : String
  deriving DecidableEq

/-- What one `read` into a buffer of 1024 bytes gives before the end of the stream. -/
abbrev ReadChunk : Type := { bytes : List UInt8 // bytes ≠ [] ∧ bytes.length ≤ 1024 }

def chunkBytes (chunks : List ReadChunk) : List UInt8 := (chunks.map Subtype.val).flatten

/-- The reads that a connection will give, and the error it fails with when it does not end. -/
structure ByteStream where
  chunks : List ReadChunk
  failure : Option IoError

def ByteStream.bytes (stream : ByteStream) : List UInt8 := chunkBytes stream.chunks

/-! ## Reading a header -/

/-- `\r\n\r\n`. -/
def blankLine : List UInt8 := [13, 10, 13, 10]

def invalidProxyHeader : IoError := ⟨.invalidData, "invalid proxy header"⟩

/-- The loop of `read_request`: the bytes up to the read that completes the blank line, and the reads after it. -/
def readHeader (failure : Option IoError) : List UInt8 → List ReadChunk → Except (Stop IoError) (List UInt8 × List ReadChunk)
  | bytes, [] => do
      refuse (maxHeaderBytes ≤ bytes.length) ⟨.invalidData, "proxy header too large"⟩
      .error (.error (failure.getD ⟨.unexpectedEof, "incomplete proxy header"⟩))
  | bytes, chunk :: chunks => do
      refuse (maxHeaderBytes ≤ bytes.length) ⟨.invalidData, "proxy header too large"⟩
      let bytes := bytes ++ chunk.1
      if (windows 4 bytes).any fun window => window = blankLine then .ok (bytes, chunks)
      else readHeader failure bytes chunks

structure RequestHead where
  method : String
  authority : String
  authorization : Option String
  deriving DecidableEq

structure ConnectRequest extends RequestHead where
  buffered : List UInt8
  deriving DecidableEq

/-- `split("\r\n")`. -/
def splitLines : List Char → List (List Char)
  | [] => [[]]
  | '\r' :: '\n' :: rest => [] :: splitLines rest
  | c :: rest => (splitLines rest).modifyHead (c :: ·)

def parseRequestLine (line : List Char) : Except (Stop IoError) (List Char × List Char) := do
  let parts := line.splitOn ' '
  let method := parts[0]?.getD []
  let authority := parts[1]?.getD []
  let version := parts[2]?.getD []
  refuse (parts[3]?.isSome ∨ method = [] ∨ authority = [] ∨
    version ∉ ["HTTP/1.0".toList, "HTTP/1.1".toList]) ⟨.invalidData, "invalid request line"⟩
  .ok (method, authority)

/-- `eq_ignore_ascii_case("proxy-authorization")`. -/
def IsAuthorization (name : List Char) : Prop := name.map Char.toLower = "proxy-authorization".toList

instance (name : List Char) : Decidable (IsAuthorization name) := inferInstanceAs (Decidable (_ = _))

def parseHeaderLine (authorization : Option (List Char)) (line : List Char) :
    Except (Stop IoError) (Option (List Char)) := do
  let (name, value) ← okOr (splitOnce ':' line) (.error invalidProxyHeader)
  if IsAuthorization name then
    refuse authorization.isSome ⟨.permissionDenied, "duplicate proxy authorization"⟩
    .ok (some (trim value))
  else .ok authorization

/-- The text before the blank line. -/
def parseHeader (header : List Char) : Except (Stop IoError) RequestHead :=
  match splitLines header with
  | [] => .error (.error ⟨.invalidData, "missing request line"⟩)
  | requestLine :: lines => do
      let (method, authority) ← parseRequestLine requestLine
      let authorization ← lines.foldlM parseHeaderLine none
      .ok ⟨String.ofList method, String.ofList authority, authorization.map String.ofList⟩

/-- `is_ascii`. -/
def isAscii (bytes : List UInt8) : Bool := bytes.all fun b => b < 128

/-- `read_request` after its loop. -/
def parseRequest (bytes : List UInt8) : Except (Stop IoError) ConnectRequest := do
  let headerEnd ← okOr (position blankLine bytes) .fault
  let bodyStart := headerEnd + 4
  refuse (maxHeaderBytes < bodyStart) invalidProxyHeader
  let start ← slice bytes 0 bodyStart
  refuse (¬isAscii start) invalidProxyHeader
  let header ← slice bytes 0 headerEnd
  let header ← okOr (fromUtf8 header) (.error invalidProxyHeader)
  let head ← parseHeader header
  let buffered ← slice bytes bodyStart bytes.length
  .ok { head with buffered := buffered }

/-- `read_request`, with the reads that are still to come. -/
def readRequest (stream : ByteStream) : Except (Stop IoError) (ConnectRequest × List ReadChunk) := do
  let (bytes, unread) ← readHeader stream.failure [] stream.chunks
  let request ← parseRequest bytes
  .ok (request, unread)

/-! ## What a header says -/

/-- The request line has three parts, the last of them a version that is served. -/
def IsRequestLine (line method authority : List Char) : Prop :=
  method ≠ [] ∧ authority ≠ [] ∧
    ∃ version ∈ ["HTTP/1.0".toList, "HTTP/1.1".toList], line.splitOn ' ' = [method, authority, version]

/-- The values of the lines with the name of the authorization. -/
def authorizations (lines : List (List Char)) : List (List Char) :=
  lines.filterMap fun line => (splitOnce ':' line).bind fun field =>
    if IsAuthorization field.1 then some (trim field.2) else none

/-- The header is well formed, and this is what it says. -/
def SaysText (header : List Char) (head : RequestHead) : Prop :=
  ∃ requestLine lines, splitLines header = requestLine :: lines ∧
    IsRequestLine requestLine head.method.toList head.authority.toList ∧ (∀ line ∈ lines, ':' ∈ line) ∧
    head.authorization.toList = (authorizations lines).map String.ofList

def Says (header : List UInt8) (head : RequestHead) : Prop :=
  isAscii header ∧ ∃ text, utf8 text = header ∧ SaysText text head

theorem parseRequestLine_eq_ok {line method authority : List Char} :
    parseRequestLine line = .ok (method, authority) ↔ IsRequestLine line method authority := by
  unfold parseRequestLine IsRequestLine
  simp only [bind_eq_ok, refuse_eq_ok, not_or, not_not, Except.ok.injEq, Prod.mk.injEq, exists_const]
  rcases line.splitOn ' ' with _ | ⟨m, _ | ⟨a, _ | ⟨v, _ | ⟨extra, rest⟩⟩⟩⟩
  case cons.cons.cons.nil =>
    constructor
    · rintro ⟨⟨-, hm, ha, hv⟩, rfl, rfl⟩
      exact ⟨hm, ha, v, hv, rfl⟩
    · rintro ⟨hm, ha, version, hversion, hparts⟩
      obtain ⟨rfl, rfl, rfl⟩ : m = method ∧ a = authority ∧ v = version := by simpa using hparts
      exact ⟨⟨(by intro h; cases h), hm, ha, hversion⟩, rfl, rfl⟩
  all_goals simp

theorem parseHeaderLine_eq_ok {authorization authorization' : Option (List Char)} {line : List Char} :
    parseHeaderLine authorization line = .ok authorization' ↔
      ':' ∈ line ∧ authorization'.toList = authorization.toList ++ authorizations [line] := by
  unfold parseHeaderLine authorizations
  rw [← splitOnce_isSome, List.filterMap_cons, List.filterMap_nil]
  cases splitOnce ':' line with
  | none => simp [okOr]
  | some field =>
      simp only [bind_eq_ok, okOr_eq_ok, Option.some.injEq, exists_eq_left', Option.isSome_some, true_and,
        Option.bind_some]
      by_cases hname : IsAuthorization field.1
      · simp only [if_pos hname, bind_eq_ok, refuse_eq_ok, exists_const]
        cases authorization with
        | none => cases authorization' <;> simp [eq_comm]
        | some value => cases authorization' <;> simp
      · simp only [if_neg hname, Except.ok.injEq]
        cases authorization <;> cases authorization' <;> simp [eq_comm]

theorem exists_toList_eq {α : Type} {l : List α} (h : l.length ≤ 1) : ∃ o : Option α, o.toList = l := by
  rcases l with _ | ⟨a, _ | ⟨b, l⟩⟩
  · exact ⟨none, rfl⟩
  · exact ⟨some a, rfl⟩
  · simp at h

theorem foldlM_parseHeaderLine {authorization authorization' : Option (List Char)} {lines : List (List Char)} :
    lines.foldlM parseHeaderLine authorization = .ok authorization' ↔
      (∀ line ∈ lines, ':' ∈ line) ∧ authorization'.toList = authorization.toList ++ authorizations lines := by
  induction lines generalizing authorization with
  | nil =>
      rw [List.foldlM_nil, pure_eq_ok]
      cases authorization <;> cases authorization' <;> simp [authorizations, eq_comm]
  | cons line lines ih =>
      have hsplit : authorizations (line :: lines) = authorizations [line] ++ authorizations lines :=
        List.filterMap_append (l := [line])
      rw [List.foldlM_cons, bind_eq_ok, List.forall_mem_cons, hsplit, ← List.append_assoc]
      simp only [parseHeaderLine_eq_ok, ih]
      constructor
      · rintro ⟨next, ⟨hline, hnext⟩, hlines, hresult⟩
        exact ⟨⟨hline, hlines⟩, by rw [hresult, hnext]⟩
      · rintro ⟨⟨hline, hlines⟩, hresult⟩
        -- One value at most is left in the end, so one at most is there after the line.
        have hlength := congrArg List.length hresult
        rw [List.length_append] at hlength
        have hone := Option.length_toList_le (o := authorization')
        obtain ⟨next, hnext⟩ := exists_toList_eq (l := authorization.toList ++ authorizations [line]) (by omega)
        exact ⟨next, ⟨hline, hnext⟩, hlines, by rw [hresult, hnext]⟩

theorem parseHeader_eq_ok {header : List Char} {head : RequestHead} :
    parseHeader header = .ok head ↔ SaysText header head := by
  unfold parseHeader SaysText
  cases splitLines header with
  | nil => simp
  | cons requestLine lines =>
      simp only [bind_eq_ok, foldlM_parseHeaderLine, Except.ok.injEq, Prod.exists, parseRequestLine_eq_ok, List.cons.injEq]
      constructor
      · rintro ⟨method, authority, hline, authorization, ⟨hcolon, hvalues⟩, rfl⟩
        refine ⟨requestLine, lines, ⟨rfl, rfl⟩, by simpa using hline, hcolon, ?_⟩
        rw [Option.toList_map, hvalues]
        rfl
      · rintro ⟨_, _, ⟨rfl, rfl⟩, hline, hcolon, hvalues⟩
        refine ⟨_, _, hline, head.authorization.map String.toList, ⟨hcolon, ?_⟩, ?_⟩
        · rw [Option.toList_map, hvalues]
          simp
        · simp
/-! ## What the parser accepts -/

theorem position_blankLine_take {bytes : List UInt8} {i : Nat} (h : position blankLine bytes = some i) :
    bytes.take (i + 4) = bytes.take i ++ blankLine := take_position h

theorem isAscii_take_blankLine {bytes : List UInt8} {i : Nat} (h : position blankLine bytes = some i) :
    isAscii (bytes.take (i + 4)) = isAscii (bytes.take i) := by
  have hblank : isAscii blankLine = true := by decide
  rw [position_blankLine_take h, isAscii, List.all_append]
  exact (congrArg _ hblank).trans (Bool.and_true _)

/-- The parser without its accesses to slices, which are within bounds. -/
theorem parseRequest_of_position {bytes : List UInt8} {i : Nat} (h : position blankLine bytes = some i) :
    parseRequest bytes = (do
      refuse (maxHeaderBytes < i + 4) invalidProxyHeader
      refuse (¬isAscii (bytes.take (i + 4))) invalidProxyHeader
      let header ← okOr (fromUtf8 (bytes.take i)) (.error invalidProxyHeader)
      let head ← parseHeader header
      .ok { head with buffered := bytes.drop (i + 4) }) := by
  have hend : i + 4 ≤ bytes.length := position_le_length h
  unfold parseRequest
  rw [h]
  dsimp only [okOr, bind, Except.bind]
  rw [slice_zero hend, slice_zero (by omega : i ≤ bytes.length), slice_length hend]

/-- **What is accepted.** The first blank line ends within the limit, and what stands before it is a header. -/
theorem parseRequest_eq_ok {bytes : List UInt8} {request : ConnectRequest} :
    parseRequest bytes = .ok request ↔
      ∃ i, FirstAt blankLine bytes i ∧ i + 4 ≤ maxHeaderBytes ∧ Says (bytes.take i) request.toRequestHead ∧
        request.buffered = bytes.drop (i + 4) := by
  constructor
  · intro h
    cases hposition : position blankLine bytes with
    | none =>
        rw [parseRequest, hposition] at h
        cases h
    | some i =>
        rw [parseRequest_of_position hposition] at h
        simp only [bind_eq_ok, refuse_eq_ok, okOr_eq_ok, exists_const, Except.ok.injEq] at h
        obtain ⟨hlimit, hascii, text, htext, head, hhead, rfl⟩ := h
        rw [isAscii_take_blankLine hposition, not_not] at hascii
        exact ⟨i, position_eq_some.mp hposition, by omega,
          ⟨hascii, text, utf8_of_fromUtf8 htext, parseHeader_eq_ok.mp hhead⟩, rfl⟩
  · rintro ⟨i, hfirst, hlimit, ⟨hascii, text, htext, hsays⟩, hbuffered⟩
    have hposition := position_eq_some.mpr hfirst
    rw [parseRequest_of_position hposition]
    simp only [bind_eq_ok, refuse_eq_ok, okOr_eq_ok, exists_const, Except.ok.injEq]
    refine ⟨by omega, ?_, text, ?_, request.toRequestHead, parseHeader_eq_ok.mpr hsays, by rw [← hbuffered]⟩
    · rw [isAscii_take_blankLine hposition, not_not]
      exact hascii
    · rw [← htext, fromUtf8_utf8]

/-- More bytes after the blank line belong to the tunnel. -/
theorem parseRequest_append {bytes : List UInt8} {i : Nat} (h : position blankLine bytes = some i) (more : List UInt8) :
    parseRequest (bytes ++ more) =
      (parseRequest bytes).map fun request => { request with buffered := request.buffered ++ more } := by
  have hend : i + 4 ≤ bytes.length := position_le_length h
  rw [parseRequest_of_position h, parseRequest_of_position (position_append more h),
    List.take_append_of_le_length hend, List.take_append_of_le_length (by omega), List.drop_append_of_le_length hend]
  cases (refuse (maxHeaderBytes < i + 4) invalidProxyHeader : Except (Stop IoError) Unit) with
  | error stop => rfl
  | ok _ =>
      cases (refuse (¬isAscii (bytes.take (i + 4))) invalidProxyHeader : Except (Stop IoError) Unit) with
      | error stop => rfl
      | ok _ =>
          cases fromUtf8 (bytes.take i) with
          | none => rfl
          | some header =>
              show ((parseHeader header).bind _) = Except.map _ ((parseHeader header).bind _)
              cases parseHeader header with
              | error stop => rfl
              | ok head => rfl

/-! ## What the loop reads -/

theorem chunkBytes_cons (chunk : ReadChunk) (chunks : List ReadChunk) :
    chunkBytes (chunk :: chunks) = chunk.1 ++ chunkBytes chunks := rfl

theorem readHeader_cons (failure : Option IoError) (bytes : List UInt8) (chunk : ReadChunk) (chunks : List ReadChunk) :
    readHeader failure bytes (chunk :: chunks) =
      if maxHeaderBytes ≤ bytes.length then .error (.error ⟨.invalidData, "proxy header too large"⟩)
      else if (position blankLine (bytes ++ chunk.1)).isSome then .ok (bytes ++ chunk.1, chunks)
      else readHeader failure (bytes ++ chunk.1) chunks := by
  rw [readHeader, ← any_windows]
  unfold refuse
  split <;> rfl

theorem readHeader_ok {failure : Option IoError} {bytes all : List UInt8} {chunks unread : List ReadChunk}
    (h : readHeader failure bytes chunks = .ok (all, unread)) :
    all ++ chunkBytes unread = bytes ++ chunkBytes chunks ∧ ∃ i, position blankLine all = some i := by
  induction chunks generalizing bytes with
  | nil =>
      simp only [readHeader, bind_eq_ok] at h
      obtain ⟨_, -, h⟩ := h
      cases h
  | cons chunk chunks ih =>
      rw [readHeader_cons, ite_error_eq_ok] at h
      rw [chunkBytes_cons, ← List.append_assoc]
      by_cases hfound : (position blankLine (bytes ++ chunk.1)).isSome
      · rw [if_pos hfound] at h
        cases h.2
        exact ⟨rfl, Option.isSome_iff_exists.mp hfound⟩
      · rw [if_neg hfound] at h
        exact ih h.2

theorem readHeader_full {failure : Option IoError} {bytes : List UInt8} (h : maxHeaderBytes ≤ bytes.length)
    (chunks : List ReadChunk) :
    readHeader failure bytes chunks = .error (.error ⟨.invalidData, "proxy header too large"⟩) := by
  cases chunks with
  | nil => rw [readHeader, refuse, if_pos h]; rfl
  | cons chunk chunks => rw [readHeader_cons, if_pos h]

/-- A connection that is given up carries no blank line that ends within the limit. -/
theorem readHeader_error {failure : Option IoError} {bytes : List UInt8} {chunks : List ReadChunk} {stop : Stop IoError}
    (hnone : position blankLine bytes = none) (h : readHeader failure bytes chunks = .error stop) :
    (stop = .error ⟨.invalidData, "proxy header too large"⟩ ∧ maxHeaderBytes ≤ (bytes ++ chunkBytes chunks).length ∧
      ∀ i, position blankLine (bytes ++ chunkBytes chunks) = some i → maxHeaderBytes < i + 4) ∨
    (stop = .error (failure.getD ⟨.unexpectedEof, "incomplete proxy header"⟩) ∧
      (bytes ++ chunkBytes chunks).length < maxHeaderBytes ∧ position blankLine (bytes ++ chunkBytes chunks) = none) := by
  induction chunks generalizing bytes with
  | nil =>
      rw [show chunkBytes [] = [] from rfl, List.append_nil]
      by_cases hfull : maxHeaderBytes ≤ bytes.length
      · rw [readHeader_full hfull] at h
        refine Or.inl ⟨(Except.error.inj h).symm, hfull, fun i hi => ?_⟩
        rw [hnone] at hi
        cases hi
      · rw [readHeader, refuse, if_neg hfull] at h
        exact Or.inr ⟨(Except.error.inj h).symm, by omega, hnone⟩
  | cons chunk chunks ih =>
      by_cases hfull : maxHeaderBytes ≤ bytes.length
      · -- Nothing was found in the bytes that fill the limit, so what is found with more ends after them.
        rw [readHeader_full hfull] at h
        refine Or.inl ⟨(Except.error.inj h).symm, by rw [List.length_append]; omega, fun i hi => ?_⟩
        have hafter : bytes.length < i + 4 := position_append_of_none hnone hi
        omega
      · rw [readHeader_cons, if_neg hfull] at h
        rw [chunkBytes_cons, ← List.append_assoc]
        cases hfound : position blankLine (bytes ++ chunk.1) with
        | some i =>
            rw [hfound] at h
            cases h
        | none =>
            rw [hfound] at h
            exact ih hfound h

/-! ## The request of a stream -/

def failureKind : Stop IoError → Stop IoErrorKind
  | .fault => .fault
  | .error error => .error error.kind

/-- What the reader of a connection goes by: the request, or the kind of the error. -/
def verdict (result : Except (Stop IoError) ConnectRequest) : Except (Stop IoErrorKind) RequestHead :=
  (result.map ConnectRequest.toRequestHead).mapError failureKind

/-- The verdict on a stream as a whole. -/
def streamVerdict (failure : Option IoError) (bytes : List UInt8) : Except (Stop IoErrorKind) RequestHead :=
  if (position blankLine bytes).isSome then verdict (parseRequest bytes)
  else if maxHeaderBytes ≤ bytes.length then .error (.error .invalidData)
  else .error (.error (failure.getD ⟨.unexpectedEof, "incomplete proxy header"⟩).kind)

theorem verdict_append {bytes : List UInt8} {i : Nat} (h : position blankLine bytes = some i) (more : List UInt8) :
    verdict (parseRequest (bytes ++ more)) = verdict (parseRequest bytes) := by
  rw [parseRequest_append h]
  cases parseRequest bytes <;> rfl

theorem verdict_of_limit {bytes : List UInt8} {i : Nat} (h : position blankLine bytes = some i)
    (hlimit : maxHeaderBytes < i + 4) : verdict (parseRequest bytes) = .error (.error .invalidData) := by
  rw [parseRequest_of_position h, refuse, if_pos hlimit]
  rfl

theorem verdict_readRequest (stream : ByteStream) :
    verdict ((readRequest stream).map Prod.fst) = streamVerdict stream.failure stream.bytes := by
  have hnone : position blankLine [] = none := by decide
  unfold readRequest streamVerdict
  cases hread : readHeader stream.failure [] stream.chunks with
  | error stop =>
      rcases readHeader_error hnone hread with ⟨rfl, hlong, hafter⟩ | ⟨rfl, hshort, hmissing⟩
      · cases hposition : position blankLine stream.bytes with
        | none => exact (if_pos hlong).symm
        | some i => exact (verdict_of_limit hposition (hafter i hposition)).symm
      · rw [show position blankLine stream.bytes = none from hmissing]
        exact (if_neg (Nat.not_le.mpr hshort)).symm
  | ok read =>
      obtain ⟨hbytes, i, hposition⟩ := readHeader_ok hread
      have hstream : stream.bytes = read.1 ++ chunkBytes read.2 := hbytes.symm
      rw [hstream, position_append _ hposition, if_pos Option.isSome_some, verdict_append hposition]
      dsimp only [bind, Except.bind]
      cases parseRequest read.1 <;> rfl

theorem readRequest_eq_ok {stream : ByteStream} {request : ConnectRequest} {unread : List ReadChunk}
    (h : readRequest stream = .ok (request, unread)) :
    parseRequest stream.bytes = .ok { request with buffered := request.buffered ++ chunkBytes unread } := by
  simp only [readRequest, bind_eq_ok, Except.ok.injEq, Prod.mk.injEq] at h
  obtain ⟨⟨all, rest⟩, hread, request', hrequest, rfl, rfl⟩ := h
  obtain ⟨hbytes, i, hposition⟩ := readHeader_ok hread
  have hstream : stream.bytes = all ++ chunkBytes rest := hbytes.symm
  rw [hstream, parseRequest_append hposition, hrequest]
  rfl

/-- What goes out into the tunnel: the buffered bytes, then what is copied from the connection. -/
def outboundBytes (request : ConnectRequest) (unread : List ReadChunk) : List UInt8 :=
  (if request.buffered.isEmpty then [] else request.buffered) ++ chunkBytes unread

theorem outboundBytes_eq (request : ConnectRequest) (unread : List ReadChunk) :
    outboundBytes request unread = request.buffered ++ chunkBytes unread := by
  unfold outboundBytes
  cases request.buffered <;> rfl

theorem verdict_eq_ok {result : Except (Stop IoError) ConnectRequest} {head : RequestHead} :
    verdict result = .ok head ↔ ∃ request, result = .ok request ∧ request.toRequestHead = head := by
  unfold verdict
  rw [mapError_eq_ok, map_eq_ok]

theorem readRequest_accepts {stream : ByteStream} {head : RequestHead} :
    (∃ request unread, readRequest stream = .ok (request, unread) ∧ request.toRequestHead = head) ↔
      ∃ headerEnd, FirstAt blankLine stream.bytes headerEnd ∧ headerEnd + 4 ≤ maxHeaderBytes ∧
        Says (stream.bytes.take headerEnd) head := by
  constructor
  · rintro ⟨request, unread, hread, rfl⟩
    obtain ⟨headerEnd, hfirst, hlimit, hsays, -⟩ := parseRequest_eq_ok.mp (readRequest_eq_ok hread)
    exact ⟨headerEnd, hfirst, hlimit, hsays⟩
  · rintro ⟨headerEnd, hfirst, hlimit, hsays⟩
    have hparse : parseRequest stream.bytes = .ok ⟨head, stream.bytes.drop (headerEnd + 4)⟩ :=
      parseRequest_eq_ok.mpr ⟨headerEnd, hfirst, hlimit, hsays, rfl⟩
    have hverdict : verdict ((readRequest stream).map Prod.fst) = .ok head := by
      rw [verdict_readRequest, streamVerdict, position_eq_some.mpr hfirst, if_pos Option.isSome_some, hparse]
      rfl
    obtain ⟨request, hrequest, hhead⟩ := verdict_eq_ok.mp hverdict
    obtain ⟨⟨request', unread⟩, hread, rfl⟩ := map_eq_ok.mp hrequest
    exact ⟨request', unread, hread, hhead⟩

/-! ## No fault -/

theorem faultless_parseRequestLine (line : List Char) : Faultless (parseRequestLine line) := by
  unfold parseRequestLine
  dsimp only
  refine Faultless.bind ?_ fun _ => faultless_ok _
  exact faultless_refuse _ _

theorem faultless_parseHeaderLine (authorization : Option (List Char)) (line : List Char) :
    Faultless (parseHeaderLine authorization line) := by
  unfold parseHeaderLine
  refine Faultless.bind (faultless_okOr _ _) fun ⟨name, value⟩ => ?_
  by_cases hname : IsAuthorization name
  · dsimp only
    rw [if_pos hname]
    exact Faultless.bind (faultless_refuse (authorization.isSome = true) _) fun _ => faultless_ok _
  · dsimp only
    rw [if_neg hname]
    exact faultless_ok _

theorem faultless_parseHeader (header : List Char) : Faultless (parseHeader header) := by
  unfold parseHeader
  cases splitLines header with
  | nil => exact faultless_error _
  | cons requestLine lines =>
      refine Faultless.bind (faultless_parseRequestLine requestLine) fun target => ?_
      exact Faultless.bind (faultless_foldlM faultless_parseHeaderLine lines none) fun _ => faultless_ok _

/-- The bounds of the slices are right once there is a blank line. -/
theorem faultless_parseRequest {bytes : List UInt8} {i : Nat} (h : position blankLine bytes = some i) :
    Faultless (parseRequest bytes) := by
  rw [parseRequest_of_position h]
  refine Faultless.bind (faultless_refuse (maxHeaderBytes < i + 4) _) fun _ => ?_
  refine Faultless.bind (faultless_refuse (¬isAscii (bytes.take (i + 4))) _) fun _ => ?_
  refine Faultless.bind (faultless_okOr _ _) fun header => ?_
  exact Faultless.bind (faultless_parseHeader header) fun _ => faultless_ok _

theorem faultless_readRequest (stream : ByteStream) : Faultless (readRequest stream) := by
  have hnone : position blankLine [] = none := by decide
  unfold readRequest
  cases hread : readHeader stream.failure [] stream.chunks with
  | error stop =>
      rcases readHeader_error hnone hread with ⟨rfl, -, -⟩ | ⟨rfl, -, -⟩
      · exact faultless_error _
      · exact faultless_error _
  | ok read =>
      obtain ⟨-, i, hposition⟩ := readHeader_ok hread
      show Faultless (parseRequest read.1 >>= fun request => .ok (request, read.2))
      exact Faultless.bind (faultless_parseRequest hposition) fun _ => faultless_ok _

/-- **A request does not depend on the reads.** Two connections that carry the same bytes get the same verdict. A
request is accepted if and only if the first blank line ends within the limit and a header stands before it, and then
the tunnel gets the bytes after the blank line. -/
theorem readRequest_stream (stream : ByteStream) :
    (∀ stream' : ByteStream, stream'.bytes = stream.bytes → stream'.failure = stream.failure →
      verdict ((readRequest stream').map Prod.fst) = verdict ((readRequest stream).map Prod.fst)) ∧
    (∀ head, (∃ request unread, readRequest stream = .ok (request, unread) ∧ request.toRequestHead = head) ↔
      ∃ headerEnd, FirstAt blankLine stream.bytes headerEnd ∧ headerEnd + 4 ≤ maxHeaderBytes ∧
        Says (stream.bytes.take headerEnd) head) ∧
    (∀ request unread headerEnd, readRequest stream = .ok (request, unread) → FirstAt blankLine stream.bytes headerEnd →
      outboundBytes request unread = stream.bytes.drop (headerEnd + 4)) ∧
    Faultless (readRequest stream) := by
  refine ⟨fun stream' hbytes hfailure => ?_, fun head => readRequest_accepts, fun request unread headerEnd hread hfirst => ?_,
    faultless_readRequest stream⟩
  · rw [verdict_readRequest, verdict_readRequest, hbytes, hfailure]
  · obtain ⟨i, hfirst', -, -, hbuffered⟩ := parseRequest_eq_ok.mp (readRequest_eq_ok hread)
    obtain rfl : headerEnd = i :=
      Option.some.inj ((position_eq_some.mpr hfirst).symm.trans (position_eq_some.mpr hfirst'))
    rw [outboundBytes_eq, ← hbuffered]

end HyperTerm.Daemon.Proxy
