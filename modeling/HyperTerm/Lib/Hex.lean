import HyperTerm.Lib.Text

/-!
# Bytes in hexadecimal

* `encodeHex` : two digits in lower case for each byte;
* `encodeHex_injective`, `length_encodeHex`, `isHexLower_encodeHex` : nothing is lost, and how the digits look.
-/

namespace HyperTerm.Lib

def hexChar (n : Nat) : Char := if n < 10 then Char.ofNat (48 + n) else Char.ofNat (87 + n)

def encodeHex (bytes : List UInt8) : List Char :=
  bytes.flatMap fun byte => [hexChar (byte.toNat / 16), hexChar (byte.toNat % 16)]

/-- A digit, or one of the letters from `a` to `f`. -/
def isHexLower (c : Char) : Bool := (48 ≤ c.toNat ∧ c.toNat ≤ 57) ∨ (97 ≤ c.toNat ∧ c.toNat ≤ 102)

theorem hexChar_inj {m n : Nat} (hm : m < 16) (hn : n < 16) (h : hexChar m = hexChar n) : m = n := by
  have hall : ∀ m n : Fin 16, hexChar m = hexChar n → m = n := by decide
  exact congrArg Fin.val (hall ⟨m, hm⟩ ⟨n, hn⟩ h)

theorem isHexLower_hexChar {n : Nat} (h : n < 16) : isHexLower (hexChar n) = true := by
  have hall : ∀ n : Fin 16, isHexLower (hexChar n) = true := by decide
  exact hall ⟨n, h⟩

theorem encodeHex_cons (byte : UInt8) (bytes : List UInt8) :
    encodeHex (byte :: bytes) = hexChar (byte.toNat / 16) :: hexChar (byte.toNat % 16) :: encodeHex bytes := rfl

theorem length_encodeHex (bytes : List UInt8) : (encodeHex bytes).length = 2 * bytes.length := by
  induction bytes with
  | nil => rfl
  | cons byte bytes ih =>
      rw [encodeHex_cons, List.length_cons, List.length_cons, List.length_cons, ih]
      omega

theorem isHexLower_encodeHex (bytes : List UInt8) : ∀ c ∈ encodeHex bytes, isHexLower c = true := by
  intro c hc
  obtain ⟨byte, -, hdigit⟩ := List.mem_flatMap.1 hc
  have hlt := byte.toNat_lt
  rcases List.mem_pair.1 hdigit with rfl | rfl
  · exact isHexLower_hexChar (by omega)
  · exact isHexLower_hexChar (by omega)

theorem encodeHex_injective : Function.Injective encodeHex := by
  intro bytes bytes' h
  induction bytes generalizing bytes' with
  | nil =>
      cases bytes' with
      | nil => rfl
      | cons byte' bytes' => cases h
  | cons byte bytes ih =>
      cases bytes' with
      | nil => cases h
      | cons byte' bytes' =>
          rw [encodeHex_cons, encodeHex_cons] at h
          obtain ⟨hhigh, hrest⟩ := List.cons_eq_cons.1 h
          obtain ⟨hlow, htail⟩ := List.cons_eq_cons.1 hrest
          have hlt := byte.toNat_lt
          have hlt' := byte'.toNat_lt
          have h₁ := hexChar_inj (by omega) (by omega) hhigh
          have h₂ := hexChar_inj (by omega) (by omega) hlow
          have hbyte : byte.toNat = byte'.toNat := by omega
          rw [UInt8.toNat_inj.1 hbyte, ih htail]

end HyperTerm.Lib
