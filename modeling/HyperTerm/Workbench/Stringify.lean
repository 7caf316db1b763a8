import HyperTerm.Lib.Utf16
import HyperTerm.Protocol.CompactJson

/-!
# `JSON.stringify` and `serde_json`

The two encoders write compact texts (`JsonText`). What they make of strings is stated for each of them as it is specified:
`jsonBody` for the strings of Rust, which are texts, and `JsString.body` for the strings of JavaScript, in which
surrogates may stand alone.

* `body_ofText` : of one text they write the same;
* `body_injective` : `JSON.stringify` writes different strings differently.
-/

namespace HyperTerm.Workbench
open HyperTerm.Lib HyperTerm.Protocol

abbrev JsString := List UInt16

/-- A number, by what `JSON.stringify` writes for it. -/
abbrev JsNumber := JsonAtom

/-- `Number.MAX_SAFE_INTEGER`. -/
def maxSafeInteger : Nat := 9007199254740991

/-- `UnicodeEscape` of a code unit. -/
def unicodeEscape (n : Nat) : List Char :=
  ['\\', 'u', hexChar (n / 4096 % 16), hexChar (n / 256 % 16), hexChar (n / 16 % 16), hexChar (n % 16)]

/-- `QuoteJSONString`, for one code point. -/
def quotePoint : CodePoint → List Char
  | .surrogate n => unicodeEscape (0xd800 + n.val)
  | .scalar c =>
      if c.toNat = 8 then ['\\', 'b']
      else if c.toNat = 9 then ['\\', 't']
      else if c.toNat = 10 then ['\\', 'n']
      else if c.toNat = 12 then ['\\', 'f']
      else if c.toNat = 13 then ['\\', 'r']
      else if c.toNat = 34 then ['\\', '"']
      else if c.toNat = 92 then ['\\', '\\']
      else if c.toNat < 32 then unicodeEscape c.toNat
      else [c]

theorem quotesEscaped_unicodeEscape (n : Nat) : QuotesEscaped (unicodeEscape n) := by
  have hdigit (k : Nat) : k % 16 < 16 := Nat.mod_lt k (by decide)
  refine .escaped 'u' ?_
  refine quotesEscaped_hexChar (hdigit _) (quotesEscaped_hexChar (hdigit _) ?_)
  exact quotesEscaped_hexChar (hdigit _) (quotesEscaped_hexChar (hdigit _) .nil)

/-! ## The encoders agree -/

theorem eq_ofNat {c : Char} {n : Nat} (h : c.toNat = n) : c = Char.ofNat n := by rw [← h, Char.ofNat_toNat]

/-- The characters that have an escape of one letter, and the others. -/
theorem quotePoint_cases (c : Char) :
    c ∈ ['\x08', '\t', '\n', '\x0c', '\r', '"', '\\'] ∨
      c ≠ '"' ∧ c ≠ '\\' ∧ c.toNat ∉ [8, 9, 10, 12, 13] ∧
        quotePoint (.scalar c) = if c.toNat < 32 then unicodeEscape c.toNat else [c] := by
  by_cases hc : c ∈ ['\x08', '\t', '\n', '\x0c', '\r', '"', '\\']
  · exact .inl hc
  have hne {n : Nat} (hmem : Char.ofNat n ∈ ['\x08', '\t', '\n', '\x0c', '\r', '"', '\\']) : c.toNat ≠ n := by
    intro h
    rw [← eq_ofNat h] at hmem
    exact hc hmem
  have h₈ : c.toNat ≠ 8 := hne (by decide)
  have h₉ : c.toNat ≠ 9 := hne (by decide)
  have h₁₀ : c.toNat ≠ 10 := hne (by decide)
  have h₁₂ : c.toNat ≠ 12 := hne (by decide)
  have h₁₃ : c.toNat ≠ 13 := hne (by decide)
  have h₃₄ : c.toNat ≠ 34 := hne (by decide)
  have h₉₂ : c.toNat ≠ 92 := hne (by decide)
  refine .inr ⟨fun h => h₃₄ (by rw [h]; rfl), fun h => h₉₂ (by rw [h]; rfl), by simp [*], ?_⟩
  unfold quotePoint
  dsimp only
  rw [if_neg h₈, if_neg h₉, if_neg h₁₀, if_neg h₁₂, if_neg h₁₃, if_neg h₃₄, if_neg h₉₂]

theorem quotePoint_scalar (c : Char) : quotePoint (.scalar c) = escape c := by
  rcases quotePoint_cases c with hshort | ⟨hquote, hbackslash, hletters, hquoted⟩
  · have hall : ∀ c ∈ ['\x08', '\t', '\n', '\x0c', '\r', '"', '\\'], quotePoint (.scalar c) = escape c := by
      simp only [List.forall_mem_cons]
      refine ⟨?_, ?_, ?_, ?_, ?_, ?_, ?_, nofun⟩ <;> decide
    exact hall c hshort
  · rw [hquoted, escape, if_neg (not_or.mpr ⟨hquote, hbackslash⟩), if_neg hletters]
    split
    · have h₁ : c.toNat / 4096 % 16 = 0 := by omega
      have h₂ : c.toNat / 256 % 16 = 0 := by omega
      have h₃ : c.toNat / 16 % 16 = c.toNat / 16 := by omega
      rw [unicodeEscape, h₁, h₂, h₃]
      rfl
    · rfl

theorem quotesEscaped_quotePoint (p : CodePoint) : QuotesEscaped (quotePoint p) := by
  cases p with
  | scalar c =>
      rw [quotePoint_scalar]
      exact quotesEscaped_escape c
  | surrogate n => exact quotesEscaped_unicodeEscape _

/-- What `JSON.stringify` writes between the quotes of a string. -/
def JsString.body (s : JsString) : JsonBody where
  text := (codePoints s).flatMap quotePoint
  escaped := quotesEscaped_flatMap quotesEscaped_quotePoint _

/-- The string that `JSON.parse` makes of the text that `serde_json` wrote. -/
def JsString.ofText (s : String) : JsString := utf16 s.toList

theorem body_ofText (s : String) : (JsString.ofText s).body = jsonBody s := by
  have htext : (codePoints (utf16 s.toList)).flatMap quotePoint = s.toList.flatMap escape := by
    rw [codePoints_utf16, List.flatMap_map]
    exact congrArg (List.flatMap · s.toList) (funext quotePoint_scalar)
  unfold JsString.body JsString.ofText jsonBody
  congr 1

/-! ## Strings are told apart -/

def hexValue (c : Char) : Nat := if c.toNat < 58 then c.toNat - 48 else c.toNat - 87

/-- The character of an escape of one letter. -/
def longForm (letter : Char) : Char :=
  if letter = 'b' then '\x08' else if letter = 't' then '\t' else if letter = 'n' then '\n'
  else if letter = 'f' then '\x0c' else if letter = 'r' then '\r' else letter

/-- The code point that a quoted text begins with. -/
def readPoint : List Char → Option CodePoint
  | [] => none
  | c :: chars =>
      if c = '\\' then
        match chars with
        | 'u' :: a :: b :: c :: d :: _ =>
            some (unitPoint (UInt16.ofNat (hexValue a * 4096 + hexValue b * 256 + hexValue c * 16 + hexValue d)))
        | letter :: _ => some (.scalar (longForm letter))
        | [] => none
      else some (.scalar c)

theorem hexValue_hexChar (k : Nat) : hexValue (hexChar (k % 16)) = k % 16 := by
  have hall : ∀ n : Fin 16, hexValue (hexChar n) = n := by decide
  exact hall ⟨k % 16, Nat.mod_lt k (by decide)⟩

theorem readPoint_unicodeEscape {n : Nat} (h : n < 65536) (rest : List Char) :
    readPoint (unicodeEscape n ++ rest) = some (unitPoint (UInt16.ofNat n)) := by
  have hsum : n / 4096 % 16 * 4096 + n / 256 % 16 * 256 + n / 16 % 16 * 16 + n % 16 = n := by omega
  show some (unitPoint (UInt16.ofNat (_ * 4096 + _ * 256 + _ * 16 + _))) = _
  rw [hexValue_hexChar, hexValue_hexChar, hexValue_hexChar, hexValue_hexChar, hsum]

theorem readPoint_quotePoint (p : CodePoint) (rest : List Char) : readPoint (quotePoint p ++ rest) = some p := by
  cases p with
  | surrogate n =>
      have hlt := n.isLt
      have hunit : (UInt16.ofNat (0xd800 + n.val)).toNat = 0xd800 + n.val := toNat_unit (by omega)
      rw [quotePoint, readPoint_unicodeEscape (by omega)]
      generalize UInt16.ofNat (0xd800 + n.val) = u at hunit ⊢
      have hindex : u.toNat - 0xd800 = n.val := by omega
      rw [unitPoint, dif_pos (by omega)]
      exact congrArg some (congrArg CodePoint.surrogate (Fin.ext hindex))
  | scalar c =>
      rcases quotePoint_cases c with hshort | ⟨-, hbackslash, -, hquoted⟩
      · simp only [List.mem_cons, List.not_mem_nil, or_false] at hshort
        rcases hshort with rfl | rfl | rfl | rfl | rfl | rfl | rfl <;> rfl
      · rw [hquoted]
        split
        · rename_i hcontrol
          have hunit : (UInt16.ofNat c.toNat).toNat = c.toNat := toNat_unit (by omega)
          rw [readPoint_unicodeEscape (by omega), unitPoint, dif_neg (by omega), hunit, Char.ofNat_toNat]
        · show (if c = '\\' then _ else some (CodePoint.scalar c)) = _
          rw [if_neg hbackslash]

theorem ofText_injective : Function.Injective JsString.ofText := fun _ _ h => String.toList_inj.mp (utf16_injective h)

theorem body_injective : Function.Injective JsString.body := by
  intro s s' h
  refine codePoints_injective (flatMap_injective (f := quotePoint) rfl readPoint_quotePoint ?_)
  exact congrArg JsonBody.text h

end HyperTerm.Workbench
