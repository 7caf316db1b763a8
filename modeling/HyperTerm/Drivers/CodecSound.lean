import HyperTerm.Drivers.Codec

/-!
# The frames of the drivers are read as they were written

The reader of lines admits two bytes more than the payload may have, and one more to notice a line that is too long.
These sums wrap for the three largest bounds, and then no written line is read back. For every other bound, and for
headers with every bound, the codec does what it is for (`codecSound_iff`).
-/

namespace HyperTerm.Drivers
open HyperTerm.Protocol HyperTerm.Lib

variable {codec : JsonCodec} {maxBytes limit : Nat} {bytes line rest : List UInt8}

/-! ## One line -/

theorem wrap_eq {n : Nat} (h : n < 2 ^ 64) : wrap n = n := Nat.mod_eq_of_lt h

theorem readBoundedLine_line {body : List UInt8} (hbody : newline ∉ body) (hlength : body.length + 1 ≤ limit)
    (hlimit : limit + 1 < 2 ^ 64) (more : List UInt8) :
    readBoundedLine limit (body ++ newline :: more) = (.ok (body ++ [newline]), more) := by
  have htake : (body ++ newline :: more).take (limit + 1) =
      body ++ newline :: more.take (limit - body.length) := by
    rw [List.take_append, List.take_of_length_le (by omega),
      show limit + 1 - body.length = limit - body.length + 1 by omega, List.take_succ_cons]
  unfold readBoundedLine
  rw [wrap_eq hlimit, htake, takeLine_append hbody]
  dsimp only
  rw [if_neg (by rw [List.length_append, List.length_singleton]; omega)]
  have hdrop : (body ++ newline :: more).drop (body ++ [newline]).length = more := by
    rw [show body ++ newline :: more = (body ++ [newline]) ++ more by simp, List.drop_left]
  rw [hdrop]

/-- A line that is read has its newline, or is the last of the stream. -/
theorem readBoundedLine_ok (hlimit : limit + 1 < 2 ^ 64) (h : readBoundedLine limit bytes = (.ok line, rest)) :
    line.length ≤ limit ∧ (IsLine line ∨ newline ∉ line ∧ rest = []) := by
  have hsplit := readBoundedLine_append h
  unfold readBoundedLine at h
  rw [wrap_eq hlimit] at h
  dsimp only at h
  split at h
  · cases h
  case isFalse hlength =>
    obtain ⟨hline, -⟩ := Prod.mk.inj h
    obtain rfl := Except.ok.inj hline
    refine ⟨not_lt.mp hlength, ?_⟩
    rcases takeLine_cases (bytes.take (limit + 1)) with ⟨body, more, hbody, htake⟩ | hno
    · rw [htake, takeLine_append hbody]
      exact Or.inl ⟨body, hbody, rfl⟩
    · rw [takeLine_of_notMem hno] at hlength hsplit ⊢
      refine Or.inr ⟨hno, ?_⟩
      -- the window was not filled, so the stream is at its end
      have hwhole := congrArg List.length hsplit
      rw [List.length_append, List.length_take] at hwhole
      rw [List.length_take] at hlength
      exact List.eq_nil_of_length_eq_zero (by omega)

theorem IsLine.ne_nil (h : IsLine line) : line ≠ [] := by
  obtain ⟨body, -, rfl⟩ := h
  exact List.append_ne_nil_of_right_ne_nil _ (List.cons_ne_nil _ _)

/-! ## Lines of JSON -/

theorem dropLast_concat (b : UInt8) (bytes : List UInt8) : dropLast b (bytes ++ [b]) = bytes := by
  unfold dropLast
  rw [if_pos List.getLast?_concat, List.dropLast_concat]

theorem dropLast_of_notMem {b : UInt8} (h : b ∉ bytes) : dropLast b bytes = bytes :=
  if_neg fun hlast => h (List.mem_of_getLast? hlast)

theorem newline_notMem_encode (codec : JsonCodec) (v : Value) : newline ∉ codec.encode v := fun h =>
  (codec.noBreak v newline h).1 rfl

theorem encode_ne_nil (codec : JsonCodec) (v : Value) : codec.encode v ≠ [] := by
  intro h
  have hdecode := codec.decode_encode v
  rw [h, codec.decode_nil] at hdecode
  cases hdecode

theorem readJsonLine_written {value : Value} (hlength : (codec.encode value).length ≤ maxBytes)
    (hmax : maxBytes + 3 < 2 ^ 64) (more : List UInt8) :
    readJsonLine codec maxBytes (codec.encode value ++ newline :: more) = (.ok (some value), more) := by
  unfold readJsonLine
  rw [wrap_eq (by omega), readBoundedLine_line (newline_notMem_encode codec value) (by omega) hmax]
  dsimp only
  rw [if_neg (List.append_ne_nil_of_right_ne_nil _ (List.cons_ne_nil _ _)), dropLast_concat,
    dropLast_of_notMem fun h => (codec.noBreak value 13 h).2 rfl, if_neg (not_lt.mpr hlength),
    if_neg (encode_ne_nil codec value), codec.decode_encode]

theorem readJsonLine_some {value : Value} (hmax : maxBytes + 3 < 2 ^ 64)
    (h : readJsonLine codec maxBytes bytes = (.ok (some value), rest)) :
    ∃ frame payload, bytes = frame ++ rest ∧ IsFrame .jsonLines frame payload rest ∧
      codec.decode payload = some value ∧ payload.length ≤ maxBytes := by
  unfold readJsonLine at h
  rw [wrap_eq (by omega)] at h
  split at h
  case h_1 => cases h
  case h_2 line rest' hline =>
    split at h
    · cases h
    case isFalse hne =>
      dsimp only at h
      split at h
      · cases h
      case isFalse hlong =>
        split at h
        · cases h
        · split at h
          · cases h
          case h_2 decoded hdecode =>
            obtain ⟨hvalue, rfl⟩ := Prod.mk.inj h
            obtain rfl := Option.some.inj (Except.ok.inj hvalue)
            obtain ⟨-, hwhole | ⟨hno, rfl⟩⟩ := readBoundedLine_ok hmax hline
            · obtain ⟨body, hbody, rfl⟩ := hwhole
              rw [dropLast_concat] at hdecode hlong
              exact ⟨_, _, readBoundedLine_append hline, .line rest' hbody, hdecode, not_lt.mp hlong⟩
            · rw [dropLast_of_notMem hno] at hdecode hlong
              exact ⟨_, _, readBoundedLine_append hline, .lastLine hno hne, hdecode, not_lt.mp hlong⟩

theorem readJsonLine_none (hmax : maxBytes + 3 < 2 ^ 64) (h : readJsonLine codec maxBytes bytes = (.ok none, rest)) :
    bytes = [] := by
  unfold readJsonLine at h
  rw [wrap_eq (by omega)] at h
  split at h
  case h_1 => cases h
  case h_2 line rest' hline =>
    split at h
    case isTrue hempty =>
      subst hempty
      obtain ⟨-, hwhole | ⟨-, rfl⟩⟩ := readBoundedLine_ok hmax hline
      · exact absurd rfl hwhole.ne_nil
      · exact readBoundedLine_append hline
    · dsimp only at h
      split at h
      · cases h
      · split at h
        · cases h
        · split at h <;> cases h

/-! ## Headers -/

theorem header_limit : maxHeaderBytes + 1 < 2 ^ 64 := by decide

theorem readBoundedLine_nil : readBoundedLine maxHeaderBytes [] = (.ok [], []) := by decide

theorem readHeaders_nil (contentLength : Option Nat) (headerBytes : Nat) :
    (readHeaders [] contentLength headerBytes).1 =
      if headerBytes = 0 then .ok none
      else .error (.invalidFrame "content-length header ended before its blank line") := by
  unfold readHeaders
  rw [readBoundedLine_nil]
  dsimp only
  rw [dif_pos rfl]
  split_ifs <;> rfl

/-- A header that is followed by the end of the headers is a whole line. -/
theorem isLine_of_more {contentLength declared : Option Nat} {headerBytes : Nat} {rest' : List UInt8}
    (hline : readBoundedLine maxHeaderBytes bytes = (.ok line, rest))
    (h : readHeaders rest contentLength headerBytes = (.ok (some declared), rest')) : IsLine line := by
  rcases (readBoundedLine_ok header_limit hline).2 with hwhole | ⟨-, rfl⟩
  · exact hwhole
  · have hend := readHeaders_nil contentLength headerBytes
    rw [h] at hend
    split_ifs at hend
    cases hend

theorem readHeaders_some {contentLength declared : Option Nat} {headerBytes : Nat}
    (h : readHeaders bytes contentLength headerBytes = (.ok (some declared), rest)) :
    ∃ headers blank ns, bytes = headers.flatten ++ blank ++ rest ∧ (blank = [newline] ∨ blank = [13, newline]) ∧
      Declare headers ns ∧ declared.toList = contentLength.toList ++ ns := by
  fun_induction readHeaders bytes contentLength headerBytes with
  | case1 | case2 | case3 | case4 | case6 | case7 | case8 => cases h
  | case5 bytes contentLength headerBytes line rest hline _ _ hblank =>
      obtain ⟨hdeclared, rfl⟩ := Prod.mk.inj h
      obtain rfl := Option.some.inj (Except.ok.inj hdeclared)
      exact ⟨[], line, [], readBoundedLine_append hline, hblank, .nil, (List.append_nil _).symm⟩
  | case9 bytes contentLength headerBytes line rest hline _ _ _ name value hsplit hname hfirst n hvalue ih =>
      obtain ⟨headers, blank, ns, rfl, hblank, hheaders, hdeclared⟩ := ih h
      refine ⟨line :: headers, blank, n :: ns, ?_, hblank,
        .length (isLine_of_more hline h) hsplit hname hvalue hheaders, ?_⟩
      · rw [readBoundedLine_append hline, List.flatten_cons, List.append_assoc, List.append_assoc, List.append_assoc]
      · rw [hdeclared, Option.not_isSome_iff_eq_none.mp hfirst]
        rfl
  | case10 bytes contentLength headerBytes line rest hline _ _ _ name value hsplit hname ih =>
      obtain ⟨headers, blank, ns, rfl, hblank, hheaders, hdeclared⟩ := ih h
      refine ⟨line :: headers, blank, ns, ?_, hblank,
        .other (isLine_of_more hline h) hsplit (Bool.not_eq_true _ ▸ hname) hheaders, hdeclared⟩
      rw [readBoundedLine_append hline, List.flatten_cons, List.append_assoc, List.append_assoc, List.append_assoc]

theorem readHeaders_none {contentLength : Option Nat} {headerBytes : Nat}
    (h : readHeaders bytes contentLength headerBytes = (.ok none, rest)) : bytes = [] ∧ headerBytes = 0 := by
  fun_induction readHeaders bytes contentLength headerBytes with
  | case1 | case3 | case4 | case5 | case6 | case7 | case8 => cases h
  | case2 bytes contentLength rest hline =>
      rcases (readBoundedLine_ok header_limit hline).2 with hwhole | ⟨-, rfl⟩
      · exact absurd rfl hwhole.ne_nil
      · exact ⟨readBoundedLine_append hline, rfl⟩
  | case9 bytes contentLength headerBytes line rest hline hne _ _ name value _ _ _ n _ ih =>
      have hzero := (ih h).2
      exact absurd (List.eq_nil_of_length_eq_zero (by omega)) hne
  | case10 bytes contentLength headerBytes line rest hline hne _ _ name value _ _ ih =>
      have hzero := (ih h).2
      exact absurd (List.eq_nil_of_length_eq_zero (by omega)) hne

theorem readContentLength_some {value : Value} (h : readContentLength codec maxBytes bytes = (.ok (some value), rest)) :
    ∃ frame payload, bytes = frame ++ rest ∧ IsFrame .contentLength frame payload rest ∧
      codec.decode payload = some value ∧ payload.length ≤ maxBytes := by
  unfold readContentLength at h
  split at h
  · cases h
  · cases h
  · cases h
  case h_4 length after hheaders =>
    split at h
    · cases h
    case isFalse hlong =>
      split at h
      · cases h
      case isFalse hshort =>
        split at h
        · cases h
        case h_2 decoded hdecode =>
          obtain ⟨hvalue, rfl⟩ := Prod.mk.inj h
          obtain rfl := Option.some.inj (Except.ok.inj hvalue)
          obtain ⟨headers, blank, ns, rfl, hblank, hdeclare, hlength⟩ := readHeaders_some hheaders
          have htaken : (after.take length).length = length := List.length_take_of_le (not_lt.mp hshort)
          have hns : ns = [(after.take length).length] := by
            rw [htaken]
            exact hlength.symm
          refine ⟨headers.flatten ++ blank ++ after.take length, after.take length, ?_,
            .contentLength _ hblank (hns ▸ hdeclare), hdecode, htaken.trans_le (not_lt.mp hlong)⟩
          rw [List.append_assoc _ (after.take length), List.take_append_drop]

theorem readContentLength_none (h : readContentLength codec maxBytes bytes = (.ok none, rest)) : bytes = [] := by
  unfold readContentLength at h
  split at h
  · cases h
  case h_2 rest' hheaders => exact (readHeaders_none hheaders).1
  · cases h
  · split at h
    · cases h
    · split at h
      · cases h
      · split at h <;> cases h

/-! ## Written headers -/

/-- The header that declares a length, without its line break. -/
def lengthHeader (n : Nat) : List Char := "Content-Length: ".toList ++ Nat.toDigits 10 n

theorem lengthHeader_ascii (n : Nat) : ∀ c ∈ lengthHeader n ++ ['\r'], c.toNat < 128 ∧ c ≠ '\n' := by
  intro c hc
  rcases List.mem_append.mp hc with hc | hc
  · rcases List.mem_append.mp hc with hc | hc
    · have hname : ∀ c ∈ "Content-Length: ".toList, c.toNat < 128 ∧ c ≠ '\n' :=
        List.all_iff_forall_prop.mp (by decide)
      exact hname c hc
    · have hdigit := toNat_of_isDigit (isDigit_digits c hc)
      refine ⟨by omega, ?_⟩
      rintro rfl
      exact absurd hdigit (by decide)
  · rw [List.mem_singleton.mp hc]
    decide

theorem lengthHeader_eq (n : Nat) :
    lengthHeader n = "Content-Length".toList ++ ':' :: ' ' :: Nat.toDigits 10 n := by
  have hname : "Content-Length: ".toList = "Content-Length".toList ++ [':', ' '] := by decide
  unfold lengthHeader
  rw [hname]
  exact List.append_assoc _ _ _

theorem splitHeader_length (n : Nat) :
    splitHeader (utf8 (lengthHeader n ++ ['\r', '\n'])) =
      .ok ("Content-Length".toList, ' ' :: Nat.toDigits 10 n) := by
  have hends : EndsInWord (lengthHeader n) := (endsInWord_digits n).append _
  have hbreak : ∀ c ∈ ['\r', '\n'], isWhitespace c = true :=
    List.all_iff_forall_prop.mp (by decide)
  have hcolon : ':' ∉ "Content-Length".toList := by decide
  unfold splitHeader
  rw [fromUtf8_utf8]
  dsimp only
  rw [trimEnd_append hends hbreak, lengthHeader_eq, splitOnce_append hcolon]

theorem parseLength_digits {n : Nat} (h : n < 2 ^ 64) : parseLength (' ' :: Nat.toDigits 10 n) = some n := by
  have hspace : ∀ c ∈ [' '], isWhitespace c = true :=
    List.all_iff_forall_prop.mp (by decide)
  show parseNat (2 ^ 64) (trim ([' '] ++ Nat.toDigits 10 n)) = some n
  rw [trim_digits hspace, parseNat_digits h]

theorem lengthHeader_length {n : Nat} (h : n < 2 ^ 64) :
    17 ≤ (utf8 (lengthHeader n ++ ['\r'])).length ∧ (utf8 (lengthHeader n ++ ['\r'])).length ≤ 37 := by
  have hdigits : (Nat.toDigits 10 n).length ≤ 20 :=
    (Nat.length_toDigits_le_iff (by decide) (by decide)).mpr (by omega)
  have hname : "Content-Length: ".toList.length = 16 := by decide
  have hlength : (lengthHeader n ++ ['\r']).length =
      "Content-Length: ".toList.length + (Nat.toDigits 10 n).length + 1 :=
    List.length_append.trans (congrArg (· + 1) List.length_append)
  rw [length_utf8_of_ascii fun c hc => (lengthHeader_ascii n c hc).1, hlength, hname]
  omega

theorem readHeaders_blank (contentLength : Option Nat) {headerBytes : Nat} (h : headerBytes ≤ 100)
    (more : List UInt8) :
    readHeaders ([13] ++ newline :: more) contentLength headerBytes = (.ok (some contentLength), more) := by
  have hline : readBoundedLine maxHeaderBytes ([13] ++ newline :: more) = (.ok [13, newline], more) :=
    readBoundedLine_line (by decide) (by decide) header_limit more
  have hroom : ¬maxHeaderBytes < headerBytes + [13, newline].length := by
    show ¬8192 < headerBytes + 2
    omega
  unfold readHeaders
  rw [hline]
  dsimp only
  rw [dif_neg (by decide), if_neg hroom, if_pos (Or.inr rfl)]

theorem readHeaders_length {n : Nat} (h : n < 2 ^ 64) (more : List UInt8) :
    readHeaders (utf8 (lengthHeader n ++ ['\r']) ++ newline :: more) none 0 =
      readHeaders more (some n) (0 + (utf8 (lengthHeader n ++ ['\r', '\n'])).length) := by
  have hlength := lengthHeader_length h
  have hbody : newline ∉ utf8 (lengthHeader n ++ ['\r']) := newline_notMem_utf8 (lengthHeader_ascii n)
  have hwhole : utf8 (lengthHeader n ++ ['\r']) ++ [newline] = utf8 (lengthHeader n ++ ['\r', '\n']) := by
    have hbreak : utf8 ['\n'] = [newline] := by decide
    rw [← hbreak, ← utf8_append, List.append_assoc]
    rfl
  have hline : readBoundedLine maxHeaderBytes (utf8 (lengthHeader n ++ ['\r']) ++ newline :: more) =
      (.ok (utf8 (lengthHeader n ++ ['\r', '\n'])), more) := by
    rw [← hwhole]
    exact readBoundedLine_line hbody (by unfold maxHeaderBytes; omega) header_limit more
  have hlong : (utf8 (lengthHeader n ++ ['\r', '\n'])).length = (utf8 (lengthHeader n ++ ['\r'])).length + 1 := by
    rw [← hwhole, List.length_append]
    rfl
  have hname : isContentLength "Content-Length".toList = true := by decide
  rw [readHeaders, hline]
  dsimp only
  rw [dif_neg, if_neg, if_neg, splitHeader_length]
  dsimp only
  rw [if_pos hname, if_neg (by decide), parseLength_digits h]
  · rintro (hblank | hblank)
    · rw [hblank] at hlong
      simp only [List.length_cons, List.length_nil] at hlong
      omega
    · rw [hblank] at hlong
      simp only [List.length_cons, List.length_nil] at hlong
      omega
  · unfold maxHeaderBytes
    omega
  · intro hnil
    rw [hnil] at hlong
    cases hlong

/-- The two lines that stand before a payload are read as its length. -/
theorem readHeaders_written {n : Nat} (h : n < 2 ^ 64) (more : List UInt8) :
    readHeaders (utf8 ("Content-Length: ".toList ++ Nat.toDigits 10 n ++ "\r\n\r\n".toList) ++ more) none 0 =
      (.ok (some (some n)), more) := by
  have hbytes : utf8 ("Content-Length: ".toList ++ Nat.toDigits 10 n ++ "\r\n\r\n".toList) ++ more =
      utf8 (lengthHeader n ++ ['\r']) ++ newline :: ([13] ++ newline :: more) := by
    have hbreaks : "\r\n\r\n".toList = ['\r'] ++ ['\n', '\r', '\n'] := by decide
    have hblank : utf8 ['\n', '\r', '\n'] = [newline, 13, newline] := by decide
    rw [hbreaks, ← List.append_assoc, utf8_append, hblank, List.append_assoc]
    rfl
  rw [hbytes, readHeaders_length h, readHeaders_blank]
  have hlength := (lengthHeader_length h).2
  have hmore : utf8 (lengthHeader n ++ ['\r', '\n']) = utf8 (lengthHeader n ++ ['\r']) ++ [newline] := by
    have hbreak : utf8 ['\n'] = [newline] := by decide
    rw [← hbreak, ← utf8_append, List.append_assoc]
    rfl
  rw [hmore, List.length_append, List.length_singleton]
  omega

theorem readContentLength_written {value : Value} (hwide : maxBytes < 2 ^ 64)
    (hlength : (codec.encode value).length ≤ maxBytes) (more : List UInt8) :
    readContentLength codec maxBytes (utf8 ("Content-Length: ".toList ++
      Nat.toDigits 10 (codec.encode value).length ++ "\r\n\r\n".toList) ++ codec.encode value ++ more) =
      (.ok (some value), more) := by
  unfold readContentLength
  rw [List.append_assoc, readHeaders_written (by omega)]
  dsimp only
  rw [if_neg (not_lt.mpr hlength), if_neg (by rw [List.length_append]; omega), List.take_left, List.drop_left, codec.decode_encode]

/-! ## The codec -/

/-- One written value is read back, whatever follows. -/
theorem read_write {framing : DriverFraming} (hwide : maxBytes < 2 ^ 64)
    (hmax : framing = .jsonLines → maxBytes + 3 < 2 ^ 64) {value : Value}
    {frame : List UInt8} (h : framing.write codec maxBytes value = .ok frame) (more : List UInt8) :
    framing.read codec maxBytes (frame ++ more) = (.ok (some value), more) := by
  unfold DriverFraming.write at h
  dsimp only at h
  split at h
  · cases h
  case isFalse hlength =>
    cases framing with
    | contentLength =>
        obtain rfl := Except.ok.inj h
        exact readContentLength_written hwide (not_lt.mp hlength) more
    | jsonLines =>
        obtain rfl := Except.ok.inj h
        rw [List.append_assoc]
        exact readJsonLine_written (not_lt.mp hlength) (hmax rfl) more

theorem read_nil (framing : DriverFraming) : framing.read codec maxBytes [] = (.ok none, []) := by
  cases framing with
  | contentLength =>
      show readContentLength codec maxBytes [] = _
      unfold readContentLength readHeaders
      rw [readBoundedLine_nil]
      rfl
  | jsonLines =>
      have hline : ∀ limit, readBoundedLine limit [] = (.ok [], []) := by
        intro limit
        unfold readBoundedLine
        rw [List.take_nil]
        rfl
      show readJsonLine codec maxBytes [] = _
      unfold readJsonLine
      rw [hline]
      rfl

/-- Written values are read back, in their order. -/
theorem readsAll_written {framing : DriverFraming} (hwide : maxBytes < 2 ^ 64)
    (hmax : framing = .jsonLines → maxBytes + 3 < 2 ^ 64)
    (values : List Value) (frames : List (List UInt8))
    (h : values.mapM (framing.write codec maxBytes) = .ok frames) :
    ReadsAll codec framing maxBytes frames.flatten values := by
  induction values generalizing frames with
  | nil =>
      obtain rfl := Except.ok.inj h
      exact .done (read_nil framing)
  | cons value values ih =>
      rw [List.mapM_cons] at h
      cases hframe : framing.write codec maxBytes value with
      | error e =>
          rw [hframe] at h
          cases h
      | ok frame =>
          rw [hframe] at h
          cases hrest : values.mapM (framing.write codec maxBytes) with
          | error e =>
              rw [hrest] at h
              cases h
          | ok rest =>
              rw [hrest] at h
              obtain rfl := Except.ok.inj h
              exact .next (read_write hwide hmax hframe rest.flatten) (ih rest hrest)

/-- The reader sees at most two bytes of a line, and allows for fewer. -/
theorem window_of_wrap (hwide : maxBytes < 2 ^ 64) (hmax : 2 ^ 64 ≤ maxBytes + 3) :
    wrap (wrap (maxBytes + 2) + 1) = 0 ∨
      wrap (wrap (maxBytes + 2) + 1) ≤ 2 ∧ wrap (maxBytes + 2) < wrap (wrap (maxBytes + 2) + 1) := by
  unfold wrap
  omega

/-- For the three largest bounds no written line is read. -/
theorem not_read_line {value : Value} (hwide : maxBytes < 2 ^ 64) (hmax : 2 ^ 64 ≤ maxBytes + 3)
    (rest : List UInt8) :
    readJsonLine codec maxBytes (codec.encode value ++ [newline]) ≠ (.ok (some value), rest) := by
  obtain ⟨b, body, hencode⟩ := List.exists_cons_of_ne_nil (encode_ne_nil codec value)
  have hb : b ≠ newline := fun h => newline_notMem_encode codec value (by rw [hencode, h]; exact List.mem_cons_self)
  obtain ⟨c, more, hmore⟩ : ∃ c more, codec.encode value ++ [newline] = b :: c :: more := by
    rw [hencode]
    cases body with
    | nil => exact ⟨newline, [], rfl⟩
    | cons c body => exact ⟨c, body ++ [newline], rfl⟩
  intro h
  unfold readJsonLine readBoundedLine at h
  rw [hmore] at h
  rcases window_of_wrap hwide hmax with hzero | ⟨htwo, hlimit⟩
  · rw [hzero] at h
    cases h
  · -- the line is as long as the window, which is longer than its limit
    have hlong : wrap (maxBytes + 2) <
        (takeLine ((b :: c :: more).take (wrap (wrap (maxBytes + 2) + 1)))).1.length := by
      generalize wrap (wrap (maxBytes + 2) + 1) = window at htwo hlimit ⊢
      have hcases : window = 1 ∨ window = 2 := by omega
      rcases hcases with rfl | rfl
      · simpa [takeLine, hb] using hlimit
      · by_cases hc : c = newline <;> simpa [takeLine, hb, hc] using hlimit
    dsimp only at h
    rw [if_pos hlong] at h
    cases h

theorem not_codecSound_of_wrap (hwide : maxBytes < 2 ^ 64) (hmax : 2 ^ 64 ≤ maxBytes + 3) :
    ¬CodecSound codec .jsonLines maxBytes := by
  intro h
  have hshort : (codec.encode .null).length = 4 := by
    rw [codec.encode_null]
    decide
  have hwrite : DriverFraming.jsonLines.write codec maxBytes .null = .ok (codec.encode .null ++ [newline]) :=
    if_neg (by omega)
  have hread := h.roundTrip [.null] [codec.encode .null ++ [newline]] (by
    rw [List.mapM_cons, hwrite]
    rfl)
  rw [List.flatten_singleton] at hread
  cases hread with
  | next hnext _ => exact not_read_line hwide hmax _ hnext

/-- **Main result.** The codec does what it is for if and only if the sums of the reader of lines do not wrap. -/
theorem codecSound_iff (codec : JsonCodec) (framing : DriverFraming) (maxBytes : Nat) (hwide : maxBytes < 2 ^ 64) :
    CodecSound codec framing maxBytes ↔ (framing = .jsonLines → maxBytes + 3 < 2 ^ 64) := by
  constructor
  · rintro h rfl
    by_contra hmax
    exact not_codecSound_of_wrap hwide (not_lt.mp hmax) h
  · intro hmax
    refine ⟨readsAll_written hwide hmax, fun bytes value rest h => ?_, fun bytes rest h => ?_⟩
    · cases framing with
      | contentLength => exact readContentLength_some h
      | jsonLines => exact readJsonLine_some (hmax rfl) h
    · cases framing with
      | contentLength => exact readContentLength_none h
      | jsonLines => exact readJsonLine_none (hmax rfl) h

/-! ## Reading without a bound -/

section Sample

open Classical

/-- `null`, or a quotation mark and as many letters as the number of the value. -/
noncomputable def sampleEncode (v : Value) : List UInt8 :=
  if v = .null then utf8 "null".toList
  else 34 :: List.replicate ((exists_injective_nat Value).choose v) 97

theorem utf8_null : utf8 "null".toList = [110, 117, 108, 108] := by decide

theorem sampleEncode_injective : Function.Injective sampleEncode := by
  intro v w h
  unfold sampleEncode at h
  rw [utf8_null] at h
  split_ifs at h with hv hw hw
  · rw [hv, hw]
  · cases h
  · cases h
  · have hlength := congrArg List.length h
    rw [List.length_cons, List.length_cons, List.length_replicate, List.length_replicate] at hlength
    exact (exists_injective_nat Value).choose_spec (Nat.succ.inj hlength)

theorem mem_sampleEncode {v : Value} {b : UInt8} (h : b ∈ sampleEncode v) : b ≠ 10 ∧ b ≠ 13 := by
  have hbytes : b ∈ ([34, 97, 110, 117, 108] : List UInt8) := by
    unfold sampleEncode at h
    rw [utf8_null] at h
    split_ifs at h
    · simp only [List.mem_cons, List.not_mem_nil, or_false] at h ⊢
      tauto
    · rcases List.mem_cons.mp h with rfl | h
      · decide
      · rw [(List.mem_replicate.mp h).2]
        decide
  have hno : ∀ b ∈ ([34, 97, 110, 117, 108] : List UInt8), b ≠ 10 ∧ b ≠ 13 :=
    List.all_iff_forall_prop.mp (by decide)
  exact hno b hbytes

theorem sampleEncode_ne_nil (v : Value) : sampleEncode v ≠ [] := by
  unfold sampleEncode
  rw [utf8_null]
  split_ifs <;> exact List.cons_ne_nil _ _

noncomputable def sampleCodec : JsonCodec where
  encode := sampleEncode
  decode bytes := if h : ∃ v, sampleEncode v = bytes then some h.choose else none
  decode_encode v := by
    have h : ∃ w, sampleEncode w = sampleEncode v := ⟨v, rfl⟩
    rw [dif_pos h, sampleEncode_injective h.choose_spec]
  noBreak v b hb := mem_sampleEncode hb
  decode_nil := dif_neg fun ⟨v, hv⟩ => sampleEncode_ne_nil v hv
  encode_null := if_pos rfl

end Sample

theorem codecSound_lines : CodecSound sampleCodec .jsonLines 1024 :=
  (codecSound_iff sampleCodec .jsonLines 1024 (by decide)).mpr fun _ => by decide

/-- With the largest bound there is, a written `null` is not read back. -/
theorem not_codecSound_lines : ¬CodecSound sampleCodec .jsonLines (2 ^ 64 - 1) :=
  not_codecSound_of_wrap (by decide) (by decide)

end HyperTerm.Drivers
