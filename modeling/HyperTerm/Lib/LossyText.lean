import HyperTerm.Lib.Text

/-!
# Bytes as text, with losses

`String::from_utf8_lossy`: where no character is encoded, the bytes that could not be continued become one U+FFFD.

* `Begun`, `startAt` : a character of which bytes are missing, and what a first byte begins;
* `fromUtf8Lossy` : the text of any bytes;
* `fromUtf8Lossy_ascii` : bytes that are characters are kept.
-/

namespace HyperTerm.Lib

def replacement : Char := Char.ofNat 0xFFFD

/-- A character that has begun: how many of its bytes are missing, the range of the next one, and its bits so far. -/
structure Begun where
  missing : Nat
  low : Nat
  high : Nat
  bits : Nat

/-- What a first byte is: a character, the begin of one, or neither. -/
def startAt (byte : UInt8) : List Char × Option Begun :=
  let n := byte.toNat
  if n < 0x80 then ([Char.ofNat n], none)
  else if 0xC2 ≤ n ∧ n ≤ 0xDF then ([], some ⟨1, 0x80, 0xBF, n - 0xC0⟩)
  -- The second byte rules out encodings that are too long, surrogates, and what lies beyond the last character.
  else if n = 0xE0 then ([], some ⟨2, 0xA0, 0xBF, 0⟩)
  else if n = 0xED then ([], some ⟨2, 0x80, 0x9F, 0xD⟩)
  else if 0xE1 ≤ n ∧ n ≤ 0xEF then ([], some ⟨2, 0x80, 0xBF, n - 0xE0⟩)
  else if n = 0xF0 then ([], some ⟨3, 0x90, 0xBF, 0⟩)
  else if n = 0xF4 then ([], some ⟨3, 0x80, 0x8F, 4⟩)
  else if 0xF1 ≤ n ∧ n ≤ 0xF3 then ([], some ⟨3, 0x80, 0xBF, n - 0xF0⟩)
  else ([replacement], none)

def lossyFrom : Option Begun → List UInt8 → List Char
  | none, [] => []
  | some _, [] => [replacement]
  | none, byte :: bytes => (startAt byte).1 ++ lossyFrom (startAt byte).2 bytes
  | some begun, byte :: bytes =>
      if begun.low ≤ byte.toNat ∧ byte.toNat ≤ begun.high then
        let bits := begun.bits * 64 + byte.toNat % 64
        if begun.missing = 1 then Char.ofNat bits :: lossyFrom none bytes
        else lossyFrom (some ⟨begun.missing - 1, 0x80, 0xBF, bits⟩) bytes
      else replacement :: (startAt byte).1 ++ lossyFrom (startAt byte).2 bytes

def fromUtf8Lossy (bytes : List UInt8) : List Char := lossyFrom none bytes

theorem fromUtf8Lossy_ascii {bytes : List UInt8} (h : ∀ byte ∈ bytes, byte.toNat < 0x80) :
    fromUtf8Lossy bytes = bytes.map fun byte => Char.ofNat byte.toNat := by
  unfold fromUtf8Lossy
  induction bytes with
  | nil => rfl
  | cons byte bytes ih =>
      have hstart : startAt byte = ([Char.ofNat byte.toNat], none) := if_pos (h byte List.mem_cons_self)
      rw [lossyFrom, hstart, ih fun byte' hmem => h byte' (List.mem_cons_of_mem byte hmem)]
      rfl

/-- A character, one that is broken off, an encoded surrogate, and a character of four bytes. -/
example : fromUtf8Lossy [0x61, 0xE2, 0x82, 0x61, 0xED, 0xA0, 0x80, 0xF0, 0x9F, 0x98, 0x80] =
    ['a', replacement, 'a', replacement, replacement, replacement, '😀'] := by decide

end HyperTerm.Lib
