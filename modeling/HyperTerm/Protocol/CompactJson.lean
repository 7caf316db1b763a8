import HyperTerm.Lib.JsonText
import HyperTerm.Protocol.PrettyJson

/-!
# Compact JSON of `serde_json`

`serde_json::to_vec` writes a value without white space. `Value.toText` is the tree of that text, from which
`JsonText.text` makes the characters.
-/

namespace HyperTerm.Protocol
open HyperTerm.Lib

theorem isSyntax_of_isDigit {c : Char} (h : c.isDigit = true) : isSyntax c = false := by
  have hsign : ∀ d ∈ ['"', ',', ':', '[', ']', '\x7b', '\x7d'], d.isDigit = false := by simp
  by_contra hc
  rw [Bool.not_eq_false, isSyntax, List.contains_iff_mem] at hc
  rw [hsign c hc] at h
  cases h

/-- A decimal number. -/
def natAtom (n : Nat) : JsonAtom where
  text := Nat.toDigits 10 n
  ne_nil := Nat.toDigits_ne_nil
  plain c hc := isSyntax_of_isDigit (isDigit_digits c hc)

theorem natAtom_injective : Function.Injective natAtom := by
  intro m n h
  exact repr_injective (congrArg (fun a : JsonAtom => String.ofList a.text) h)

def boolAtom (b : Bool) : JsonAtom where
  text := if b then "true".toList else "false".toList
  ne_nil := by cases b <;> decide
  plain := by cases b <;> simp [isSyntax]

theorem boolAtom_injective : Function.Injective boolAtom := by
  intro b b' h
  have htext := congrArg JsonAtom.text h
  revert htext
  cases b <;> cases b' <;> decide

theorem hexChar_ne {n : Nat} (h : n < 16) : hexChar n ≠ '"' ∧ hexChar n ≠ '\\' := by
  have hall : ∀ n : Fin 16, hexChar n ≠ '"' ∧ hexChar n ≠ '\\' := by decide
  exact hall ⟨n, h⟩

theorem quotesEscaped_hexChar {n : Nat} (h : n < 16) {chars : List Char} (hchars : QuotesEscaped chars) :
    QuotesEscaped (hexChar n :: chars) := .plain (hexChar_ne h).1 (hexChar_ne h).2 hchars

theorem quotesEscaped_escape (c : Char) : QuotesEscaped (escape c) := by
  have hvalid := Nat.mod_lt c.toNat (show 0 < 16 by decide)
  unfold escape
  split_ifs with hquote hshort hcontrol
  · exact .escaped c .nil
  · exact .escaped _ .nil
  · have hzero : QuotesEscaped ['0', '0', hexChar (c.toNat / 16), hexChar (c.toNat % 16)] :=
      .plain (by decide) (by decide) (.plain (by decide) (by decide)
        (quotesEscaped_hexChar (by omega) (quotesEscaped_hexChar hvalid .nil)))
    exact hzero.escaped 'u'
  · exact .plain (fun h => hquote (.inl h)) (fun h => hquote (.inr h)) .nil

/-- What `serde_json` writes between the quotes of a string. -/
def jsonBody (s : String) : JsonBody where
  text := s.toList.flatMap escape
  escaped := quotesEscaped_flatMap quotesEscaped_escape _

/-! ## Values -/

/-- A word in front of which there may be a sign: `text` where it can stand in a compact text. -/
def plainAtom (text : List Char) (otherwise : JsonAtom) : JsonAtom :=
  if h : text ≠ [] ∧ text.any isSyntax = false then ⟨text, h.1, by simpa using h.2⟩ else otherwise

/-- What is written of a number. The text of a float has no sign of the syntax in it. -/
def Number.atom : Number → JsonAtom
  | unsigned n => natAtom n.val
  | negative n => plainAtom ('-' :: Nat.toDigits 10 (n.val + 1)) (natAtom 0)
  | float text => plainAtom text.toList (natAtom 0)

def nullAtom : JsonAtom := plainAtom "null".toList (natAtom 0)

mutual

def Value.toText : Value → JsonText
  | .null => .atom nullAtom
  | .bool b => .atom (boolAtom b)
  | .number n => .atom n.atom
  | .string s => .string (jsonBody s)
  | .array items => .array (itemTexts items)
  | .object members => .object (memberTexts members)

def itemTexts : List Value → List JsonText
  | [] => []
  | v :: items => v.toText :: itemTexts items

def memberTexts : List (String × Value) → List (JsonBody × JsonText)
  | [] => []
  | (key, v) :: members => (jsonBody key, v.toText) :: memberTexts members

end

theorem itemTexts_eq_map (items : List Value) : itemTexts items = items.map Value.toText := by
  induction items with
  | nil => rfl
  | cons v items ih => rw [itemTexts, ih, List.map_cons]

theorem memberTexts_eq_map (members : List (String × Value)) :
    memberTexts members = members.map fun member => (jsonBody member.1, member.2.toText) := by
  induction members with
  | nil => rfl
  | cons member members ih => rw [memberTexts, ih, List.map_cons]

/-- `serde_json::to_vec`. -/
def Value.compact (v : Value) : List Char := v.toText.text

/-! ## The length of a text -/

mutual

/-- A bound on the bytes of a text in which each byte of a string may have become six. -/
def Value.compactBound : Value → Nat
  | .null => 4
  | .bool _ => 5
  | .number n => 1 + n.size
  | .string s => 2 + 6 * s.utf8ByteSize
  | .array items => 1 + itemsBound items
  | .object members => 1 + membersBound members

def itemsBound : List Value → Nat
  | [] => 1
  | v :: items => 1 + v.compactBound + itemsBound items

def membersBound : List (String × Value) → Nat
  | [] => 1
  | (key, v) :: members => 4 + 6 * key.utf8ByteSize + v.compactBound + membersBound members

end

theorem length_utf8_jsonBody_le (s : String) : (utf8 (jsonBody s).text).length ≤ 6 * s.utf8ByteSize := by
  have hchars (chars : List Char) : (chars.map escapedSize).sum ≤ 6 * (utf8 chars).length := by
    induction chars with
    | nil => exact Nat.le_refl _
    | cons c chars ih =>
        have hc := escapedSize_le c
        rw [List.map_cons, List.sum_cons, ← List.singleton_append, length_utf8_append, ← utf8ByteSize_ofList,
          utf8ByteSize_ofList_cons]
        have hempty : (String.ofList []).utf8ByteSize = 0 := rfl
        omega
  rw [← String.ofList_toList (s := s), utf8ByteSize_ofList]
  show (utf8 ((String.ofList s.toList).toList.flatMap escape)).length ≤ _
  rw [String.toList_ofList, length_utf8_flatMap_escape]
  exact hchars s.toList

theorem length_utf8_quoted_le (s : String) : (utf8 (jsonBody s).quoted).length ≤ 2 + 6 * s.utf8ByteSize := by
  have hbody := length_utf8_jsonBody_le s
  unfold JsonBody.quoted
  rw [length_utf8_sign rfl, length_utf8_append]
  show 1 + (_ + 1) ≤ _
  omega

theorem length_utf8_plainAtom_le (chars : List Char) :
    (utf8 (plainAtom chars (natAtom 0)).text).length ≤ 1 + (utf8 chars).length := by
  unfold plainAtom
  split_ifs
  · exact Nat.le_add_left _ _
  · exact Nat.le_add_right 1 _

theorem length_utf8_atom_le (n : Number) : (utf8 n.atom.text).length ≤ 1 + n.size := by
  cases n with
  | unsigned n => exact (length_utf8_digits n).trans_le (Nat.le_add_left _ _)
  | negative n =>
      exact (length_utf8_plainAtom_le _).trans_eq (congrArg (1 + ·) (length_utf8_text (.negative n)))
  | float text => exact (length_utf8_plainAtom_le _).trans_eq (congrArg (1 + ·) (length_utf8_text (.float text)))

theorem nullAtom_text : nullAtom.text = ['n', 'u', 'l', 'l'] := by
  exact congrArg JsonAtom.text (dif_pos ⟨List.cons_ne_nil _ _, by decide⟩)

theorem length_utf8_nullAtom : (utf8 nullAtom.text).length = 4 := by
  rw [nullAtom_text]
  rfl

mutual

theorem Value.length_utf8_compact_le (v : Value) : (utf8 v.compact).length ≤ v.compactBound := by
  cases v with
  | null => exact length_utf8_nullAtom.le
  | bool b => cases b <;> decide
  | number n => exact length_utf8_atom_le n
  | string s => exact length_utf8_quoted_le s
  | array items =>
      cases items with
      | nil => decide
      | cons item items =>
          have hitem := item.length_utf8_compact_le
          have hitems := length_utf8_itemsText_le items
          show (utf8 ('[' :: (item.compact ++ itemsText (itemTexts items)))).length ≤
            1 + (1 + item.compactBound + itemsBound items)
          rw [length_utf8_sign rfl, length_utf8_append]
          omega
  | object members =>
      cases members with
      | nil => decide
      | cons member members =>
          obtain ⟨key, v⟩ := member
          have hkey := length_utf8_quoted_le key
          have hvalue := v.length_utf8_compact_le
          have hmembers := length_utf8_membersText_le members
          show (utf8 ('\x7b' :: ((jsonBody key).quoted ++ ':' :: (v.compact ++ membersText (memberTexts members))))).length ≤
            1 + (4 + 6 * key.utf8ByteSize + v.compactBound + membersBound members)
          rw [length_utf8_sign rfl, length_utf8_append, length_utf8_sign rfl, length_utf8_append]
          omega

theorem length_utf8_itemsText_le (items : List Value) :
    (utf8 (itemsText (itemTexts items))).length ≤ itemsBound items := by
  cases items with
  | nil => decide
  | cons item items =>
      have hitem := item.length_utf8_compact_le
      have hitems := length_utf8_itemsText_le items
      show (utf8 (',' :: (item.compact ++ itemsText (itemTexts items)))).length ≤
        1 + item.compactBound + itemsBound items
      rw [length_utf8_sign rfl, length_utf8_append]
      omega

theorem length_utf8_membersText_le (members : List (String × Value)) :
    (utf8 (membersText (memberTexts members))).length ≤ membersBound members := by
  cases members with
  | nil => decide
  | cons member members =>
      obtain ⟨key, v⟩ := member
      have hkey := length_utf8_quoted_le key
      have hvalue := v.length_utf8_compact_le
      have hmembers := length_utf8_membersText_le members
      show (utf8 (',' :: ((jsonBody key).quoted ++ ':' :: (v.compact ++ membersText (memberTexts members))))).length ≤
        4 + 6 * key.utf8ByteSize + v.compactBound + membersBound members
      rw [length_utf8_sign rfl, length_utf8_append, length_utf8_sign rfl, length_utf8_append]
      omega

end

end HyperTerm.Protocol
