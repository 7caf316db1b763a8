import Mathlib.Data.Bool.AllAny
import Mathlib.Data.List.DropRight
import HyperTerm.Lib.Lines

/-!
# Texts as lists of characters

The functions of a string library that a reader of text headers uses, and how they undo what a writer does.

* `utf8`, `fromUtf8` : the bytes of a text, and the text of valid bytes;
* `trimEnd`, `trim`, `splitOnce` : white space at the ends, and the two sides of a separator;
* `parseNat` : a decimal numeral below a bound, with an optional plus sign;
* `utf8Bounded` : as much of a text as some bytes hold.
-/

namespace HyperTerm.Lib

/-! ## Bytes of a text -/

def utf8 (chars : List Char) : List UInt8 := chars.flatMap String.utf8EncodeChar

def fromUtf8 (bytes : List UInt8) : Option (List Char) := bytes.toByteArray.utf8Decode?.map Array.toList

theorem fromUtf8_utf8 (chars : List Char) : fromUtf8 (utf8 chars) = some chars := by
  show (List.utf8Encode chars).utf8Decode?.map Array.toList = _
  rw [List.utf8Decode?_utf8Encode]
  rfl

theorem utf8_of_fromUtf8 {bytes : List UInt8} {chars : List Char} (h : fromUtf8 bytes = some chars) :
    utf8 chars = bytes := by
  obtain ⟨decoded, hdecoded, rfl⟩ := Option.map_eq_some_iff.mp h
  have hencode : decoded.toList.utf8Encode = bytes.toByteArray := by
    have hget := @ByteArray.utf8Encode_get_utf8Decode? bytes.toByteArray (by rw [hdecoded]; rfl)
    simpa [hdecoded] using hget
  have hbytes := congrArg (fun b : ByteArray => b.data.toList) hencode
  simpa [List.utf8Encode, utf8] using hbytes

theorem utf8_injective : Function.Injective utf8 := fun chars chars' h => by
  have hread : fromUtf8 (utf8 chars) = fromUtf8 (utf8 chars') := congrArg fromUtf8 h
  rw [fromUtf8_utf8, fromUtf8_utf8] at hread
  exact Option.some.inj hread

theorem utf8_append (chars chars' : List Char) : utf8 (chars ++ chars') = utf8 chars ++ utf8 chars' :=
  List.flatMap_append

/-- A character below 128 is its own byte. -/
theorem utf8_of_ascii {chars : List Char} (h : ∀ c ∈ chars, c.toNat < 128) :
    utf8 chars = chars.map fun c => UInt8.ofNat c.toNat := by
  induction chars with
  | nil => rfl
  | cons c chars ih =>
      have hc : c.val.toNat ≤ 127 := Nat.le_of_lt_succ (h c List.mem_cons_self)
      have hbyte : String.utf8EncodeChar c = [UInt8.ofNat c.toNat] := if_pos hc
      rw [utf8, List.flatMap_cons, hbyte, List.map_cons]
      exact congrArg _ (ih fun c' hc' => h c' (List.mem_cons_of_mem c hc'))

theorem length_utf8_of_ascii {chars : List Char} (h : ∀ c ∈ chars, c.toNat < 128) :
    (utf8 chars).length = chars.length := by
  rw [utf8_of_ascii h, List.length_map]

theorem newline_notMem_utf8 {chars : List Char} (h : ∀ c ∈ chars, c.toNat < 128 ∧ c ≠ '\n') :
    newline ∉ utf8 chars := by
  rw [utf8_of_ascii fun c hc => (h c hc).1]
  intro hmem
  obtain ⟨c, hc, heq⟩ := List.mem_map.mp hmem
  obtain ⟨hascii, hne⟩ := h c hc
  have hten : c.toNat = 10 := by
    have hval := congrArg UInt8.toNat heq
    rw [UInt8.toNat_ofNat', Nat.mod_eq_of_lt (by omega)] at hval
    exact hval
  exact hne (Char.toNat_inj.mp hten)

/-! ## White space and separators -/

/-- The characters with the Unicode property `White_Space`. -/
def isWhitespace (c : Char) : Bool :=
  (9 ≤ c.toNat ∧ c.toNat ≤ 13) ∨ (8192 ≤ c.toNat ∧ c.toNat ≤ 8202) ∨
    c.toNat ∈ [32, 133, 160, 5760, 8232, 8233, 8239, 8287, 12288]

def trimEnd (chars : List Char) : List Char := chars.rdropWhile isWhitespace

def trim (chars : List Char) : List Char := trimEnd (chars.dropWhile isWhitespace)

theorem toNat_toLower (c : Char) :
    c.toLower.toNat = if 65 ≤ c.toNat ∧ c.toNat ≤ 90 then c.toNat + 32 else c.toNat := by
  unfold Char.toLower
  split
  · rename_i h
    have h' : 65 ≤ c.toNat ∧ c.toNat ≤ 90 := h
    rw [if_pos h']
    show (c.val + 32).toNat = _
    rw [UInt32.toNat_add]
    show (c.toNat + 32) % _ = _
    exact Nat.mod_eq_of_lt (by omega)
  · rename_i h
    exact (if_neg h).symm

theorem toLower_toLower (c : Char) : c.toLower.toLower = c.toLower := by
  refine Char.toNat_inj.mp ?_
  rw [toNat_toLower c.toLower, toNat_toLower c]
  split
  · rw [if_neg (by omega)]
  · rfl

theorem isWhitespace_toLower (c : Char) : isWhitespace c.toLower = isWhitespace c := by
  unfold isWhitespace
  rw [toNat_toLower]
  split
  · rename_i h
    refine decide_eq_decide.mpr ?_
    simp only [List.mem_cons, List.not_mem_nil, or_false]
    omega
  · rfl

theorem trim_map_toLower (chars : List Char) : trim (chars.map Char.toLower) = (trim chars).map Char.toLower := by
  have hsame : isWhitespace ∘ Char.toLower = isWhitespace := funext isWhitespace_toLower
  unfold trim trimEnd List.rdropWhile
  rw [List.dropWhile_map, ← List.map_reverse, List.dropWhile_map, hsame, ← List.map_reverse]

theorem trim_trim (chars : List Char) : trim (trim chars) = trim chars := by
  have hstart : (trim chars).dropWhile isWhitespace = trim chars := by
    obtain ⟨rest, hrest⟩ : trim chars <+: chars.dropWhile isWhitespace := List.rdropWhile_prefix _ _
    cases hword : trim chars with
    | nil => rfl
    | cons c word =>
        have hfirst := List.dropWhile_eq_self_iff.mp (List.dropWhile_idempotent isWhitespace chars)
        simp only [← hrest, hword] at hfirst
        exact List.dropWhile_cons_of_neg (hfirst (Nat.succ_pos _))
  show trimEnd ((trim chars).dropWhile isWhitespace) = _
  rw [hstart]
  exact List.rdropWhile_idempotent _ _

theorem trim_eq_self {chars : List Char} (h : ∀ c ∈ chars, isWhitespace c = false) : trim chars = chars := by
  have hstart : chars.dropWhile isWhitespace = chars :=
    List.dropWhile_eq_self_iff.mpr fun hl hspace => by
      rw [h _ (List.getElem_mem hl)] at hspace
      cases hspace
  rw [trim, hstart, trimEnd, List.rdropWhile_eq_self_iff]
  intro hne hspace
  rw [h _ (List.getLast_mem hne)] at hspace
  cases hspace

/-- The text before the first separator, and the text after it. -/
def splitOnce (separator : Char) (chars : List Char) : Option (List Char × List Char) :=
  if separator ∈ chars then
    some (chars.takeWhile (· ≠ separator), (chars.dropWhile (· ≠ separator)).tail)
  else none

theorem splitOnce_isSome {separator : Char} {chars : List Char} :
    (splitOnce separator chars).isSome ↔ separator ∈ chars := by
  unfold splitOnce
  split
  · next h => exact ⟨fun _ => h, fun _ => rfl⟩
  · next h => exact ⟨fun h' => (nomatch h'), fun h' => absurd h' h⟩

/-- A text is its first piece, and each further piece after its separator. -/
theorem exists_pieces (separator : Char) (text : List Char) :
    ∃ first rest, text.splitOn separator = first :: rest ∧
      text = first ++ rest.flatMap fun piece => separator :: piece := by
  induction text with
  | nil => exact ⟨[], [], rfl, rfl⟩
  | cons c text ih =>
      obtain ⟨first, rest, hpieces, htext⟩ := ih
      rw [List.splitOn_cons_eq_if_modifyHead, hpieces]
      by_cases hc : c = separator
      · exact ⟨[], first :: rest, by simp [hc], by simp [hc, htext]⟩
      · exact ⟨c :: first, rest, by simp [hc], by simp [htext]⟩

/-- The pieces between separators hold none. -/
theorem forall_of_mem_splitOnP {α : Type} {p : α → Bool} {l piece : List α} (h : piece ∈ l.splitOnP p) :
    ∀ a ∈ piece, p a = false := by
  induction l generalizing piece with
  | nil =>
      rw [List.mem_singleton.1 h]
      exact List.forall_mem_nil _
  | cons a l ih =>
      rw [List.splitOnP_cons_eq_if_modifyHead] at h
      by_cases ha : p a = true
      · rw [if_pos ha] at h
        rcases List.mem_cons.1 h with rfl | h
        · exact List.forall_mem_nil _
        · exact ih h
      · rw [if_neg ha] at h
        cases hpieces : l.splitOnP p with
        | nil => rw [hpieces] at h; cases h
        | cons first rest =>
            rw [hpieces] at h ih
            rcases List.mem_cons.1 h with rfl | h
            · exact List.forall_mem_cons.2 ⟨Bool.eq_false_iff.2 ha, ih List.mem_cons_self⟩
            · exact ih (List.mem_cons_of_mem _ h)

/-- Every character but the separators is in a piece. -/
theorem mem_splitOn_of_mem {separator c : Char} {text : List Char} (h : c ∈ text) (hc : c ≠ separator) :
    ∃ piece ∈ text.splitOn separator, c ∈ piece := by
  obtain ⟨first, rest, hpieces, htext⟩ := exists_pieces separator text
  rw [htext, List.mem_append, List.mem_flatMap] at h
  rw [hpieces]
  rcases h with hfirst | ⟨piece, hpiece, hmem⟩
  · exact ⟨first, List.mem_cons_self, hfirst⟩
  · exact ⟨piece, List.mem_cons_of_mem _ hpiece, (List.mem_cons.mp hmem).resolve_left hc⟩

theorem mem_of_mem_splitOn {separator c : Char} {text piece : List Char} (h : piece ∈ text.splitOn separator)
    (hc : c ∈ piece) : c ∈ text := by
  obtain ⟨first, rest, hpieces, htext⟩ := exists_pieces separator text
  rw [hpieces] at h
  rw [htext, List.mem_append, List.mem_flatMap]
  rcases List.mem_cons.mp h with rfl | hrest
  · exact Or.inl hc
  · exact Or.inr ⟨piece, hrest, List.mem_cons_of_mem _ hc⟩

/-- The text ends in a character that is not white space. -/
def EndsInWord (chars : List Char) : Prop := ∃ first c, chars = first ++ [c] ∧ isWhitespace c = false

theorem EndsInWord.append {chars : List Char} (h : EndsInWord chars) (before : List Char) :
    EndsInWord (before ++ chars) := by
  obtain ⟨first, c, rfl, hc⟩ := h
  exact ⟨before ++ first, c, (List.append_assoc before first [c]).symm, hc⟩

theorem trimEnd_append {chars spaces : List Char} (h : EndsInWord chars)
    (hspaces : ∀ c ∈ spaces, isWhitespace c = true) : trimEnd (chars ++ spaces) = chars := by
  obtain ⟨first, c, rfl, hc⟩ := h
  induction spaces using List.reverseRecOn with
  | nil =>
      rw [List.append_nil, trimEnd, List.rdropWhile_concat_neg _ _ _ (by rw [hc]; decide)]
  | append_singleton spaces s ih =>
      rw [← List.append_assoc, trimEnd, List.rdropWhile_concat_pos _ _ _ (hspaces s (by simp))]
      exact ih fun c hc => hspaces c (List.mem_append_left _ hc)

theorem splitOnce_append {separator : Char} {before : List Char} (h : separator ∉ before) (after : List Char) :
    splitOnce separator (before ++ separator :: after) = some (before, after) := by
  have hne : ∀ c ∈ before, decide (c ≠ separator) = true := fun c hc =>
    decide_eq_true fun heq => h (heq ▸ hc)
  rw [splitOnce, if_pos (by simp), List.takeWhile_append_of_pos hne, List.dropWhile_append_of_pos hne]
  simp

theorem splitOnce_eq_some {separator : Char} {text before after : List Char} :
    splitOnce separator text = some (before, after) ↔ text = before ++ separator :: after ∧ separator ∉ before := by
  constructor
  · intro h
    have hmem : separator ∈ text := splitOnce_isSome.mp (Option.isSome_of_eq_some h)
    obtain ⟨before', after', rfl, hbefore⟩ := List.eq_append_cons_of_mem hmem
    rw [splitOnce_append hbefore] at h
    cases h
    exact ⟨rfl, hbefore⟩
  · rintro ⟨rfl, hbefore⟩
    exact splitOnce_append hbefore after

/-! ## Numerals -/

/-- `str::parse` of an unsigned integer. -/
def parseNat (bound : Nat) (chars : List Char) : Option Nat :=
  let digits := if chars.head? = some '+' then chars.tail else chars
  if digits ≠ [] ∧ digits.all Char.isDigit ∧ Nat.ofDigitChars 10 digits 0 < bound then
    some (Nat.ofDigitChars 10 digits 0)
  else none

theorem isDigit_digits {n : Nat} : ∀ c ∈ Nat.toDigits 10 n, c.isDigit = true := fun _ hc =>
  Nat.isDigit_of_mem_toDigits (by decide) (by decide) hc

theorem parseNat_digits {n bound : Nat} (h : n < bound) : parseNat bound (Nat.toDigits 10 n) = some n := by
  have hplus : (Nat.toDigits 10 n).head? ≠ some '+' := fun hhead =>
    absurd (isDigit_digits _ (List.mem_of_head? hhead)) (by decide)
  unfold parseNat
  rw [if_neg hplus]
  dsimp only
  rw [Nat.ofDigitChars_ten_toDigits, if_pos ⟨Nat.toDigits_ne_nil, List.all_eq_true.mpr isDigit_digits, h⟩]

theorem toNat_of_isDigit {c : Char} (h : c.isDigit = true) : 48 ≤ c.toNat ∧ c.toNat ≤ 57 := by
  unfold Char.isDigit at h
  simp only [ge_iff_le, Bool.and_eq_true, decide_eq_true_eq, UInt32.le_iff_toNat_le] at h
  exact h

theorem toNat_of_isAlphanum {c : Char} (h : c.isAlphanum) :
    (48 ≤ c.toNat ∧ c.toNat ≤ 57) ∨ (65 ≤ c.toNat ∧ c.toNat ≤ 90) ∨ (97 ≤ c.toNat ∧ c.toNat ≤ 122) := by
  have hranges : (decide (c.val ≥ 65 ∧ c.val ≤ 90) || (decide (c.val ≥ 97) && decide (c.val ≤ 122)) ||
      (decide (c.val ≥ 48) && decide (c.val ≤ 57))) = true := h
  simp only [Bool.or_eq_true, Bool.and_eq_true, decide_eq_true_eq, ge_iff_le, UInt32.le_iff_toNat_le] at hranges
  change ((65 ≤ c.toNat ∧ c.toNat ≤ 90) ∨ (97 ≤ c.toNat ∧ c.toNat ≤ 122)) ∨ (48 ≤ c.toNat ∧ c.toNat ≤ 57) at hranges
  omega

theorem isWhitespace_of_isDigit {c : Char} (h : c.isDigit = true) : isWhitespace c = false := by
  have hrange := toNat_of_isDigit h
  refine decide_eq_false ?_
  rintro (hspace | hspace | hspace)
  · omega
  · omega
  · simp only [List.mem_cons, List.not_mem_nil, or_false] at hspace
    omega

theorem endsInWord_digits (n : Nat) : EndsInWord (Nat.toDigits 10 n) := by
  have hne : Nat.toDigits 10 n ≠ [] := Nat.toDigits_ne_nil
  exact ⟨(Nat.toDigits 10 n).dropLast, (Nat.toDigits 10 n).getLast hne, (List.dropLast_append_getLast hne).symm,
    isWhitespace_of_isDigit (isDigit_digits _ (List.getLast_mem hne))⟩

/-- White space before a numeral is no part of it. -/
theorem trim_digits {spaces : List Char} (hspaces : ∀ c ∈ spaces, isWhitespace c = true) (n : Nat) :
    trim (spaces ++ Nat.toDigits 10 n) = Nat.toDigits 10 n := by
  have hdrop : (spaces ++ Nat.toDigits 10 n).dropWhile isWhitespace = Nat.toDigits 10 n := by
    rw [List.dropWhile_append_of_pos hspaces]
    cases hdigits : Nat.toDigits 10 n with
    | nil => rfl
    | cons c digits =>
        have hc : isWhitespace c = false :=
          isWhitespace_of_isDigit (isDigit_digits _ (hdigits ▸ List.mem_cons_self))
        exact List.dropWhile_cons_of_neg (by rw [hc]; decide)
  have hnone : ∀ c ∈ ([] : List Char), isWhitespace c = true := fun c hc => by cases hc
  have htrim := trimEnd_append (endsInWord_digits n) hnone
  rw [List.append_nil] at htrim
  rw [trim, hdrop, htrim]

/-- The digits of a numeral are a byte each. -/
theorem utf8ByteSize_repr (n : Nat) : n.repr.utf8ByteSize = n.repr.length := by
  induction n using Nat.strongRecOn with
  | ind n ih =>
      have hdigit : ∀ d < 10, (String.singleton (Nat.digitChar d)).utf8ByteSize = 1 := by decide
      rcases Nat.lt_or_ge n 10 with hlt | hge
      · rw [Nat.repr_of_lt hlt, hdigit n hlt, String.length_singleton]
      · rw [Nat.repr_of_ge hge, String.utf8ByteSize_append, String.length_append, ih (n / 10) (by omega),
          hdigit (n % 10) (by omega), String.length_singleton]

/-! ## Bounded texts -/

/-- The characters in front that fit. -/
def boundedChars : Nat → List Char → List Char
  | _, [] => []
  | maximum, c :: chars => if c.utf8Size ≤ maximum then c :: boundedChars (maximum - c.utf8Size) chars else []

/-- As much of a text as `maximum` bytes hold, by whole characters. -/
def utf8Bounded (maximum : Nat) (text : String) : String := String.ofList (boundedChars maximum text.toList)

theorem utf8ByteSize_ofList_cons (c : Char) (chars : List Char) :
    (String.ofList (c :: chars)).utf8ByteSize = c.utf8Size + (String.ofList chars).utf8ByteSize := by
  have hcons : String.ofList (c :: chars) = String.singleton c ++ String.ofList chars := by
    rw [String.singleton_eq_ofList, ← String.ofList_append]
    rfl
  rw [hcons, String.utf8ByteSize_append, String.utf8ByteSize_singleton]

theorem utf8ByteSize_replicate (n : Nat) (c : Char) :
    (String.ofList (List.replicate n c)).utf8ByteSize = n * c.utf8Size := by
  induction n with
  | zero => rw [Nat.zero_mul]; rfl
  | succ n ih => rw [List.replicate_succ, utf8ByteSize_ofList_cons, ih, Nat.succ_mul, Nat.add_comm]

theorem utf8ByteSize_ofList (chars : List Char) : (String.ofList chars).utf8ByteSize = (utf8 chars).length := by
  induction chars with
  | nil => rfl
  | cons c chars ih =>
      rw [utf8ByteSize_ofList_cons, ih]
      show _ = (String.utf8EncodeChar c ++ utf8 chars).length
      rw [List.length_append, String.length_utf8EncodeChar]

theorem utf8ByteSize_boundedChars_le (maximum : Nat) (chars : List Char) :
    (String.ofList (boundedChars maximum chars)).utf8ByteSize ≤ maximum := by
  induction chars generalizing maximum with
  | nil => exact Nat.zero_le _
  | cons c chars ih =>
      unfold boundedChars
      split
      · next hfits =>
          have hrest := ih (maximum - c.utf8Size)
          rw [utf8ByteSize_ofList_cons]
          omega
      · exact Nat.zero_le _

/-- A text that fits leaves its room to what follows it. -/
theorem boundedChars_append_of_le {maximum : Nat} {chars : List Char}
    (h : (String.ofList chars).utf8ByteSize ≤ maximum) (chars' : List Char) :
    boundedChars maximum (chars ++ chars') =
      chars ++ boundedChars (maximum - (String.ofList chars).utf8ByteSize) chars' := by
  induction chars generalizing maximum with
  | nil => rfl
  | cons c chars ih =>
      rw [utf8ByteSize_ofList_cons] at h ⊢
      have hfits : c.utf8Size ≤ maximum := by omega
      have hrest : (String.ofList chars).utf8ByteSize ≤ maximum - c.utf8Size := by omega
      rw [List.cons_append, boundedChars, if_pos hfits, ih hrest, Nat.sub_sub]
      rfl

/-- Nothing that follows a text is kept once a character of the text is not. -/
theorem boundedChars_append_of_lt {maximum : Nat} {chars : List Char}
    (h : maximum < (String.ofList chars).utf8ByteSize) (chars' : List Char) :
    boundedChars maximum (chars ++ chars') = boundedChars maximum chars := by
  induction chars generalizing maximum with
  | nil => exact absurd h (Nat.not_lt_zero _)
  | cons c chars ih =>
      rw [utf8ByteSize_ofList_cons] at h
      rw [List.cons_append, boundedChars, boundedChars]
      by_cases hfits : c.utf8Size ≤ maximum
      · have hrest : maximum - c.utf8Size < (String.ofList chars).utf8ByteSize := by omega
        rw [if_pos hfits, if_pos hfits, ih hrest]
      · rw [if_neg hfits, if_neg hfits]

theorem utf8ByteSize_utf8Bounded_le (maximum : Nat) (text : String) : (utf8Bounded maximum text).utf8ByteSize ≤ maximum :=
  utf8ByteSize_boundedChars_le maximum text.toList

theorem utf8Bounded_append_of_le {maximum : Nat} {text : String} (h : text.utf8ByteSize ≤ maximum) (text' : String) :
    utf8Bounded maximum (text ++ text') = text ++ utf8Bounded (maximum - text.utf8ByteSize) text' := by
  have hsize : (String.ofList text.toList).utf8ByteSize ≤ maximum := by rwa [String.ofList_toList]
  unfold utf8Bounded
  rw [String.toList_append, boundedChars_append_of_le hsize, String.ofList_append, String.ofList_toList]

theorem utf8Bounded_of_le {maximum : Nat} {text : String} (h : text.utf8ByteSize ≤ maximum) :
    utf8Bounded maximum text = text := by
  have happend := utf8Bounded_append_of_le h ""
  rwa [String.append_empty, show utf8Bounded (maximum - text.utf8ByteSize) "" = "" from rfl, String.append_empty] at happend

theorem utf8Bounded_append_of_lt {maximum : Nat} {text : String} (h : maximum < text.utf8ByteSize) (text' : String) :
    utf8Bounded maximum (text ++ text') = utf8Bounded maximum text := by
  have hsize : maximum < (String.ofList text.toList).utf8ByteSize := by rwa [String.ofList_toList]
  unfold utf8Bounded
  rw [String.toList_append, boundedChars_append_of_lt hsize]

/-! ## Numerals -/

theorem repr_injective {m n : Nat} (h : m.repr = n.repr) : m = n := by
  have hdigits : Nat.toDigits 10 m = Nat.toDigits 10 n := String.ofList_injective h
  have hvalue := congrArg (fun digits => Nat.ofDigitChars 10 digits 0) hdigits
  simpa only [Nat.ofDigitChars_ten_toDigits] using hvalue

end HyperTerm.Lib
