import HyperTerm.Lib.Hex
import HyperTerm.Protocol.Json

/-!
# JSON texts for readers

`serde_json::to_vec_pretty` writes each member and each item on a line of its own, two spaces further in than the bracket.

* `Value.pretty` : the text of a value;
* `Value.prettySize` : how many bytes that are;
* `Value.length_utf8_pretty` : the one is the length of the other.
-/

namespace HyperTerm.Protocol
open HyperTerm.Lib

/-- The letter of a control character that has a short form. -/
def shortEscape : Nat → Char
  | 8 => 'b'
  | 9 => 't'
  | 10 => 'n'
  | 12 => 'f'
  | _ => 'r'

def escape (c : Char) : List Char :=
  if c = '"' ∨ c = '\\' then ['\\', c]
  else if c.toNat ∈ [8, 9, 10, 12, 13] then ['\\', shortEscape c.toNat]
  else if c.toNat < 32 then ['\\', 'u', '0', '0', hexChar (c.toNat / 16), hexChar (c.toNat % 16)]
  else [c]

def jsonString (s : String) : List Char := '"' :: (s.toList.flatMap escape ++ ['"'])

def Number.text : Number → List Char
  | unsigned n => Nat.toDigits 10 n
  | negative n => '-' :: Nat.toDigits 10 (n + 1)
  | float text => text.toList

/-- A line break, and the spaces in front of what is `depth` brackets deep. -/
def lineBreak (depth : Nat) : List Char := '\n' :: List.replicate (2 * depth) ' '

mutual

def Value.pretty (depth : Nat) : Value → List Char
  | .null => "null".toList
  | .bool b => if b then "true".toList else "false".toList
  | .number n => n.text
  | .string s => jsonString s
  | .array [] => "[]".toList
  | .array (item :: items) =>
      '[' :: (lineBreak (depth + 1) ++ (item.pretty (depth + 1) ++ (itemsPretty (depth + 1) items ++ lineBreak depth ++ [']'])))
  | .object [] => "\x7b\x7d".toList
  | .object ((key, v) :: members) =>
      '\x7b' :: (lineBreak (depth + 1) ++ (jsonString key ++ (": ".toList ++ (v.pretty (depth + 1) ++
        (membersPretty (depth + 1) members ++ lineBreak depth ++ ['\x7d'])))))

/-- The items after the first one. -/
def itemsPretty (depth : Nat) : List Value → List Char
  | [] => []
  | item :: items => ',' :: (lineBreak depth ++ (item.pretty depth ++ itemsPretty depth items))

/-- The members after the first one. -/
def membersPretty (depth : Nat) : List (String × Value) → List Char
  | [] => []
  | (key, v) :: members =>
      ',' :: (lineBreak depth ++ (jsonString key ++ (": ".toList ++ (v.pretty depth ++ membersPretty depth members))))

end

mutual

def Value.prettySize (depth : Nat) : Value → Nat
  | .null => 4
  | .bool b => if b then 4 else 5
  | .number n => n.size
  | .string s => jsonStringSize s
  | .array [] => 2
  | .array (item :: items) =>
      2 + (1 + 2 * (depth + 1)) + item.prettySize (depth + 1) + itemsPrettySize (depth + 1) items + (1 + 2 * depth)
  | .object [] => 2
  | .object ((key, v) :: members) =>
      2 + (1 + 2 * (depth + 1)) + (jsonStringSize key + 2 + v.prettySize (depth + 1)) +
        membersPrettySize (depth + 1) members + (1 + 2 * depth)

def itemsPrettySize (depth : Nat) : List Value → Nat
  | [] => 0
  | item :: items => 2 + 2 * depth + item.prettySize depth + itemsPrettySize depth items

def membersPrettySize (depth : Nat) : List (String × Value) → Nat
  | [] => 0
  | (key, v) :: members =>
      2 + 2 * depth + (jsonStringSize key + 2 + v.prettySize depth) + membersPrettySize depth members

end

/-! ## The length of a text -/

theorem length_utf8_escape (c : Char) : (utf8 (escape c)).length = escapedSize c := by
  unfold escape escapedSize
  split_ifs with hquote hshort hcontrol
  · rcases hquote with rfl | rfl <;> rfl
  · simp only [List.mem_cons, List.not_mem_nil, or_false] at hshort
    rcases hshort with h | h | h | h | h <;> rw [h] <;> rfl
  · rw [length_utf8_of_ascii]
    · rfl
    · intro d hd
      have hlt : c.toNat % 16 < 16 := Nat.mod_lt _ (by decide)
      have hdiv : c.toNat / 16 < 16 := by omega
      have hhex (n : Nat) (hn : n < 16) : (hexChar n).toNat < 128 := by
        have hall : ∀ n : Fin 16, (hexChar n).toNat < 128 := by decide
        exact hall ⟨n, hn⟩
      simp only [List.mem_cons, List.not_mem_nil, or_false] at hd
      rcases hd with rfl | rfl | rfl | rfl | rfl | rfl
      · decide
      · decide
      · decide
      · decide
      · exact hhex _ hdiv
      · exact hhex _ hlt
  · show (String.utf8EncodeChar c ++ []).length = c.utf8Size
    rw [List.append_nil, String.length_utf8EncodeChar]

theorem length_utf8_flatMap_escape (chars : List Char) :
    (utf8 (chars.flatMap escape)).length = (chars.map escapedSize).sum := by
  induction chars with
  | nil => rfl
  | cons c chars ih =>
      rw [List.flatMap_cons, utf8_append, List.length_append, length_utf8_escape, ih, List.map_cons, List.sum_cons]

@[simp] theorem length_utf8_append (chars chars' : List Char) :
    (utf8 (chars ++ chars')).length = (utf8 chars).length + (utf8 chars').length := by
  rw [utf8_append, List.length_append]

/-- A sign of one byte in front of a text. -/
theorem length_utf8_sign {c : Char} (h : c.utf8Size = 1) (chars : List Char) :
    (utf8 (c :: chars)).length = 1 + (utf8 chars).length := by
  show (String.utf8EncodeChar c ++ utf8 chars).length = _
  rw [List.length_append, String.length_utf8EncodeChar, h]

@[simp] theorem length_utf8_jsonString (s : String) : (utf8 (jsonString s)).length = jsonStringSize s := by
  rw [jsonString, length_utf8_sign rfl, length_utf8_append, length_utf8_flatMap_escape, jsonStringSize]
  show 1 + (_ + 1) = _
  omega

theorem length_utf8_digits (n : Nat) : (utf8 (Nat.toDigits 10 n)).length = decimalSize n :=
  length_utf8_of_ascii fun c hc => by
    have hrange := toNat_of_isDigit (isDigit_digits c hc)
    omega

@[simp] theorem length_utf8_text (n : Number) : (utf8 n.text).length = n.size := by
  cases n with
  | unsigned n => exact length_utf8_digits n
  | negative n =>
      rw [Number.text, length_utf8_sign rfl, length_utf8_digits]
      rfl
  | float text =>
      show (utf8 text.toList).length = text.utf8ByteSize
      rw [← utf8ByteSize_ofList, String.ofList_toList]

@[simp] theorem length_utf8_lineBreak (depth : Nat) : (utf8 (lineBreak depth)).length = 1 + 2 * depth := by
  rw [length_utf8_of_ascii]
  · show (List.replicate (2 * depth) ' ').length + 1 = _
    rw [List.length_replicate, Nat.add_comm]
  · intro c hc
    rcases List.mem_cons.1 hc with rfl | hc
    · decide
    · rw [(List.mem_replicate.1 hc).2]
      decide

mutual

theorem Value.length_utf8_pretty (depth : Nat) (v : Value) : (utf8 (v.pretty depth)).length = v.prettySize depth := by
  cases v with
  | null => rfl
  | bool b => cases b <;> rfl
  | number n => exact length_utf8_text n
  | string s => exact length_utf8_jsonString s
  | array items =>
      cases items with
      | nil => rfl
      | cons item items =>
          rw [Value.pretty, Value.prettySize, length_utf8_sign rfl]
          simp only [length_utf8_append, length_utf8_lineBreak]
          rw [item.length_utf8_pretty, length_utf8_itemsPretty]
          show 1 + (_ + (_ + (_ + _ + 1))) = _
          omega
  | object members =>
      cases members with
      | nil => rfl
      | cons member members =>
          obtain ⟨key, v⟩ := member
          rw [Value.pretty, Value.prettySize, length_utf8_sign rfl]
          simp only [length_utf8_append, length_utf8_lineBreak, length_utf8_jsonString]
          rw [v.length_utf8_pretty, length_utf8_membersPretty]
          show 1 + (_ + (_ + (2 + (_ + (_ + _ + 1))))) = _
          omega

theorem length_utf8_itemsPretty (depth : Nat) (items : List Value) :
    (utf8 (itemsPretty depth items)).length = itemsPrettySize depth items := by
  cases items with
  | nil => rfl
  | cons item items =>
      rw [itemsPretty, itemsPrettySize, length_utf8_sign rfl]
      simp only [length_utf8_append, length_utf8_lineBreak]
      rw [item.length_utf8_pretty, length_utf8_itemsPretty]
      omega

theorem length_utf8_membersPretty (depth : Nat) (members : List (String × Value)) :
    (utf8 (membersPretty depth members)).length = membersPrettySize depth members := by
  cases members with
  | nil => rfl
  | cons member members =>
      obtain ⟨key, v⟩ := member
      rw [membersPretty, membersPrettySize, length_utf8_sign rfl]
      simp only [length_utf8_append, length_utf8_lineBreak, length_utf8_jsonString]
      rw [v.length_utf8_pretty, length_utf8_membersPretty]
      show 1 + (_ + (_ + (2 + (_ + _)))) = _
      omega

end

/-- The text of an object with a string and a list in it. -/
example : String.ofList ((Value.object [("id", .string "a\n"), ("list", .array [.null])]).pretty 0) =
    "\x7b\n  \"id\": \"a\\n\",\n  \"list\": [\n    null\n  ]\n\x7d" := by decide

end HyperTerm.Protocol
