import HyperTerm.Lib.Text

/-!
# Boundaries of characters

A text can be cut at a byte where a character starts, or at its end.

* `splitAtByte` : the two texts that a cut leaves;
* `boundaryBelow`, `boundaryAbove` : the nearest cut, searched byte by byte in either direction;
* `boundaryBelow_spec`, `boundaryAbove_spec` : there is one, and none is passed on the way.
-/

namespace HyperTerm.Lib

/-- The characters in front of a byte, and those from it on. Inside a character there is no cut. -/
def splitAtByte : List Char → Nat → Option (List Char × List Char)
  | text, 0 => some ([], text)
  | [], _ + 1 => none
  | c :: text, n + 1 =>
      if c.utf8Size ≤ n + 1 then (splitAtByte text (n + 1 - c.utf8Size)).map fun cut => (c :: cut.1, cut.2) else none

def isCharBoundary (text : List Char) (n : Nat) : Bool := (splitAtByte text n).isSome

/-- From a byte downwards to the first place of a cut. -/
def boundaryBelow (text : List Char) : Nat → Nat
  | 0 => 0
  | n + 1 => if isCharBoundary text (n + 1) then n + 1 else boundaryBelow text n

/-- From a byte upwards to the first place of a cut; `left` bytes of the text lie ahead. -/
def boundaryAbove (text : List Char) : (left : Nat) → Nat → Nat
  | 0, start => start
  | left + 1, start => if isCharBoundary text start then start else boundaryAbove text left (start + 1)

theorem length_utf8_cons (c : Char) (text : List Char) : (utf8 (c :: text)).length = c.utf8Size + (utf8 text).length := by
  show (String.utf8EncodeChar c ++ utf8 text).length = _
  rw [List.length_append, String.length_utf8EncodeChar]

theorem splitAtByte_zero (text : List Char) : splitAtByte text 0 = some ([], text) := by
  cases text <;> rfl

theorem splitAtByte_append (before after : List Char) :
    splitAtByte (before ++ after) (utf8 before).length = some (before, after) := by
  induction before with
  | nil => exact splitAtByte_zero after
  | cons c before ih =>
      have hpos := Char.utf8Size_pos c
      obtain ⟨n, hn⟩ : ∃ n, (utf8 (c :: before)).length = n + 1 :=
        ⟨c.utf8Size + (utf8 before).length - 1, by rw [length_utf8_cons]; omega⟩
      have hfits : c.utf8Size ≤ n + 1 := by rw [← hn, length_utf8_cons]; omega
      have hrest : n + 1 - c.utf8Size = (utf8 before).length := by rw [← hn, length_utf8_cons]; omega
      rw [hn, List.cons_append, splitAtByte, if_pos hfits, hrest, ih]
      rfl

/-- A cut leaves two texts that make up the whole, the first of as many bytes. -/
theorem splitAtByte_eq_some {text before after : List Char} {n : Nat} :
    splitAtByte text n = some (before, after) ↔ text = before ++ after ∧ (utf8 before).length = n := by
  constructor
  · intro h
    induction text generalizing n before with
    | nil =>
        cases n with
        | zero => cases h; exact ⟨rfl, rfl⟩
        | succ n => cases h
    | cons c text ih =>
        cases n with
        | zero => cases h; exact ⟨rfl, rfl⟩
        | succ n =>
            rw [splitAtByte] at h
            by_cases hfits : c.utf8Size ≤ n + 1
            · rw [if_pos hfits, Option.map_eq_some_iff] at h
              obtain ⟨⟨front, rest⟩, hcut, heq⟩ := h
              cases heq
              obtain ⟨htext, hsize⟩ := ih hcut
              refine ⟨by rw [htext]; rfl, ?_⟩
              rw [length_utf8_cons, hsize]
              omega
            · rw [if_neg hfits] at h
              cases h
  · rintro ⟨rfl, rfl⟩
    exact splitAtByte_append before after

theorem isCharBoundary_iff {text : List Char} {n : Nat} :
    isCharBoundary text n = true ↔ ∃ before after, text = before ++ after ∧ (utf8 before).length = n := by
  unfold isCharBoundary
  rw [Option.isSome_iff_exists]
  constructor
  · rintro ⟨⟨before, after⟩, h⟩
    exact ⟨before, after, splitAtByte_eq_some.1 h⟩
  · rintro ⟨before, after, h⟩
    exact ⟨(before, after), splitAtByte_eq_some.2 h⟩

theorem isCharBoundary_zero (text : List Char) : isCharBoundary text 0 = true :=
  isCharBoundary_iff.2 ⟨[], text, rfl, rfl⟩

theorem isCharBoundary_length (text : List Char) : isCharBoundary text (utf8 text).length = true :=
  isCharBoundary_iff.2 ⟨text, [], (List.append_nil text).symm, rfl⟩

/-- The search downwards ends at a cut, the last one that is not above where it starts. -/
theorem boundaryBelow_spec (text : List Char) (n : Nat) :
    isCharBoundary text (boundaryBelow text n) = true ∧ boundaryBelow text n ≤ n ∧
      ∀ m, boundaryBelow text n < m → m ≤ n → isCharBoundary text m = false := by
  induction n with
  | zero => exact ⟨isCharBoundary_zero text, Nat.le_refl 0, fun m hlt hle => absurd hlt (Nat.not_lt.2 hle)⟩
  | succ n ih =>
      rw [boundaryBelow]
      by_cases hcut : isCharBoundary text (n + 1) = true
      · rw [if_pos hcut]
        exact ⟨hcut, Nat.le_refl _, fun m hlt hle => absurd hlt (Nat.not_lt.2 hle)⟩
      · rw [if_neg hcut]
        refine ⟨ih.1, Nat.le_succ_of_le ih.2.1, fun m hlt hle => ?_⟩
        rcases Nat.lt_or_ge n m with hm | hm
        · obtain rfl : m = n + 1 := by omega
          exact Bool.eq_false_iff.2 hcut
        · exact ih.2.2 m hlt hm

/-- The search upwards ends at a cut, the first one that is not below where it starts. -/
theorem boundaryAbove_spec {text : List Char} {left start : Nat} (h : start + left = (utf8 text).length) :
    isCharBoundary text (boundaryAbove text left start) = true ∧ start ≤ boundaryAbove text left start ∧
      ∀ m, start ≤ m → m < boundaryAbove text left start → isCharBoundary text m = false := by
  induction left generalizing start with
  | zero =>
      have hstart : start = (utf8 text).length := h
      refine ⟨?_, Nat.le_refl start, fun m hle hlt => absurd hlt (Nat.not_lt.2 hle)⟩
      rw [boundaryAbove, hstart]
      exact isCharBoundary_length text
  | succ left ih =>
      rw [boundaryAbove]
      by_cases hcut : isCharBoundary text start = true
      · rw [if_pos hcut]
        exact ⟨hcut, Nat.le_refl _, fun m hle hlt => absurd hlt (Nat.not_lt.2 hle)⟩
      · rw [if_neg hcut]
        obtain ⟨hfound, hge, hnone⟩ := ih (by omega : start + 1 + left = (utf8 text).length)
        refine ⟨hfound, by omega, fun m hle hlt => ?_⟩
        rcases Nat.eq_or_lt_of_le hle with rfl | hm
        · exact Bool.eq_false_iff.2 hcut
        · exact hnone m hm hlt

end HyperTerm.Lib
