import Mathlib.Data.Char

/-!
# Strings of UTF-16 code units

A string of JavaScript is any list of code units, and need not be the encoding of a text: a surrogate may stand alone.

* `codePoints` : the code points of such a string, a surrogate that is in no pair being one of its own;
* `units_codePoints`, `codePoints_utf16` : nothing is lost, and a text is read as it was written;
* `flatMap_injective` : codes that are read off what they begin.
-/

namespace HyperTerm.Lib

/-- A character, or the surrogate `0xd800 + n` on its own. -/
inductive CodePoint where
  | scalar (c : Char)
  | surrogate (n : Fin 2048)
  deriving DecidableEq

def CodePoint.units : CodePoint → List UInt16
  | .scalar c =>
      if c.toNat < 65536 then [UInt16.ofNat c.toNat]
      else [UInt16.ofNat (0xd800 + (c.toNat - 65536) / 1024), UInt16.ofNat (0xdc00 + (c.toNat - 65536) % 1024)]
  | .surrogate n => [UInt16.ofNat (0xd800 + n.val)]

/-- The UTF-16 encoding of a text. -/
def utf16 (chars : List Char) : List UInt16 := chars.flatMap fun c => (CodePoint.scalar c).units

def isLeading (u : UInt16) : Prop := 0xd800 ≤ u.toNat ∧ u.toNat < 0xdc00

def isTrailing (u : UInt16) : Prop := 0xdc00 ≤ u.toNat ∧ u.toNat < 0xe000

instance (u : UInt16) : Decidable (isLeading u) := inferInstanceAs (Decidable (_ ∧ _))

instance (u : UInt16) : Decidable (isTrailing u) := inferInstanceAs (Decidable (_ ∧ _))

/-- What a code unit stands for when it is in no pair. -/
def unitPoint (u : UInt16) : CodePoint :=
  if h : 0xd800 ≤ u.toNat ∧ u.toNat < 0xe000 then .surrogate ⟨u.toNat - 0xd800, by omega⟩
  else .scalar (Char.ofNat u.toNat)

def pairChar (u v : UInt16) : Char := Char.ofNat (65536 + (u.toNat - 0xd800) * 1024 + (v.toNat - 0xdc00))

def codePoints : List UInt16 → List CodePoint
  | [] => []
  | [u] => [unitPoint u]
  | u :: v :: units =>
      if isLeading u ∧ isTrailing v then .scalar (pairChar u v) :: codePoints units
      else unitPoint u :: codePoints (v :: units)

/-! ## Nothing is lost -/

theorem toNat_charOfNat {n : Nat} (h : n < 0xd800 ∨ 0xdfff < n ∧ n < 0x110000) : (Char.ofNat n).toNat = n := by
  have hvalid : Nat.isValidChar n := h
  rw [Char.ofNat, dif_pos hvalid]
  rfl

theorem toNat_char (c : Char) : c.toNat < 0xd800 ∨ 0xdfff < c.toNat ∧ c.toNat < 0x110000 := c.valid

theorem toNat_unit {n : Nat} (h : n < 65536) : (UInt16.ofNat n).toNat = n := UInt16.toNat_ofNat_of_lt' h

theorem units_unitPoint (u : UInt16) : (unitPoint u).units = [u] := by
  have hlt := u.toNat_lt
  unfold unitPoint
  split
  · rename_i hsurrogate
    show [UInt16.ofNat (0xd800 + (u.toNat - 0xd800))] = [u]
    rw [Nat.add_sub_cancel' hsurrogate.1, UInt16.ofNat_toNat]
  · rename_i hsurrogate
    have hnat : (Char.ofNat u.toNat).toNat = u.toNat := toNat_charOfNat (by omega)
    rw [CodePoint.units, hnat, if_pos hlt, UInt16.ofNat_toNat]

theorem units_pairChar {u v : UInt16} (hu : isLeading u) (hv : isTrailing v) :
    (CodePoint.scalar (pairChar u v)).units = [u, v] := by
  unfold isLeading at hu
  unfold isTrailing at hv
  have hnat : (pairChar u v).toNat = 65536 + (u.toNat - 0xd800) * 1024 + (v.toNat - 0xdc00) :=
    toNat_charOfNat (by omega)
  have hleading : 0xd800 + ((pairChar u v).toNat - 65536) / 1024 = u.toNat := by omega
  have htrailing : 0xdc00 + ((pairChar u v).toNat - 65536) % 1024 = v.toNat := by omega
  rw [CodePoint.units, if_neg (by omega), hleading, htrailing, UInt16.ofNat_toNat, UInt16.ofNat_toNat]

theorem units_codePoints (units : List UInt16) : (codePoints units).flatMap CodePoint.units = units := by
  induction units using codePoints.induct with
  | case1 => rfl
  | case2 u =>
      rw [codePoints, List.flatMap_cons, units_unitPoint]
      rfl
  | case3 u v units hpair ih =>
      rw [codePoints, if_pos hpair, List.flatMap_cons, units_pairChar hpair.1 hpair.2, ih]
      rfl
  | case4 u v units hpair ih =>
      rw [codePoints, if_neg hpair, List.flatMap_cons, units_unitPoint, ih]
      rfl

theorem codePoints_injective : Function.Injective codePoints := by
  intro units units' h
  rw [← units_codePoints units, h, units_codePoints]

/-! ## A text is read as it was written -/

theorem codePoints_cons {u : UInt16} (h : ¬isLeading u) (units : List UInt16) :
    codePoints (u :: units) = unitPoint u :: codePoints units := by
  cases units with
  | nil => rfl
  | cons v units => rw [codePoints, if_neg fun hpair => h hpair.1]

theorem codePoints_scalar (c : Char) (units : List UInt16) :
    codePoints ((CodePoint.scalar c).units ++ units) = .scalar c :: codePoints units := by
  have hvalid := toNat_char c
  unfold CodePoint.units
  dsimp only
  split
  · rename_i hsmall
    have hunit := toNat_unit hsmall
    rw [List.singleton_append, codePoints_cons]
    · congr 1
      unfold unitPoint
      rw [dif_neg (by omega), hunit, Char.ofNat_toNat]
    · unfold isLeading
      omega
  · rename_i hlarge
    have hleading : (UInt16.ofNat (0xd800 + (c.toNat - 65536) / 1024)).toNat = 0xd800 + (c.toNat - 65536) / 1024 :=
      toNat_unit (by omega)
    have htrailing : (UInt16.ofNat (0xdc00 + (c.toNat - 65536) % 1024)).toNat = 0xdc00 + (c.toNat - 65536) % 1024 :=
      toNat_unit (by omega)
    generalize UInt16.ofNat (0xd800 + (c.toNat - 65536) / 1024) = u at hleading ⊢
    generalize UInt16.ofNat (0xdc00 + (c.toNat - 65536) % 1024) = v at htrailing ⊢
    have hnat : 65536 + (u.toNat - 0xd800) * 1024 + (v.toNat - 0xdc00) = c.toNat := by omega
    have hchar : pairChar u v = c := by rw [pairChar, hnat, Char.ofNat_toNat]
    have hpair : isLeading u ∧ isTrailing v := by
      unfold isLeading isTrailing
      omega
    show codePoints (u :: v :: units) = _
    rw [codePoints, if_pos hpair, hchar]

theorem codePoints_utf16 (chars : List Char) : codePoints (utf16 chars) = chars.map CodePoint.scalar := by
  induction chars with
  | nil => rfl
  | cons c chars ih =>
      show codePoints ((CodePoint.scalar c).units ++ utf16 chars) = _
      rw [codePoints_scalar, ih, List.map_cons]

theorem utf16_injective : Function.Injective utf16 := by
  intro chars chars' h
  have hpoints := congrArg codePoints h
  rw [codePoints_utf16, codePoints_utf16] at hpoints
  exact List.map_inj_right (fun _ _ hsame => CodePoint.scalar.inj hsame) |>.mp hpoints

/-! ## Codes that are read off what they begin -/

/-- If each code can be read off a list that it begins, then lists of codes can be told apart. -/
theorem flatMap_injective {α β : Type} {f : α → List β} {read : List β → Option α} (hnil : read [] = none)
    (hread : ∀ a rest, read (f a ++ rest) = some a) : Function.Injective fun l : List α => l.flatMap f := by
  intro l l' h
  dsimp only at h
  induction l generalizing l' with
  | nil =>
      cases l' with
      | nil => rfl
      | cons a' l' =>
          have hread' := hread a' (l'.flatMap f)
          rw [← List.flatMap_cons, ← h, List.flatMap_nil, hnil] at hread'
          cases hread'
  | cons a l ih =>
      cases l' with
      | nil =>
          have hread' := hread a (l.flatMap f)
          rw [← List.flatMap_cons, h, List.flatMap_nil, hnil] at hread'
          cases hread'
      | cons a' l' =>
          rw [List.flatMap_cons, List.flatMap_cons] at h
          have hhead := hread a (l.flatMap f)
          rw [h, hread, Option.some_inj] at hhead
          subst hhead
          rw [ih (List.append_cancel_left h)]

end HyperTerm.Lib
