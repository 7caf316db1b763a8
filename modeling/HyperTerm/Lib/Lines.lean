import Mathlib.Data.Countable.Defs
import Mathlib.Data.List.Infix

/-!
# Files of encoded lines

* `takeLine` : one line of a byte stream, with its newline when it has one;
* `LineCodec` : an encoding of values as lines, with the laws a reader of such a file relies on;
* `LineCodec.short` : every countable type has such a codec, with short lines for a given list of values.
-/

namespace HyperTerm.Lib

variable {α : Type}

/-- Texts are compared character by character. -/
instance lawfulBEqChars : LawfulBEq (List Char) := inferInstance

def newline : UInt8 := 10

/-! ## One line of a byte stream -/

/-- The bytes up to and with the first newline, and the rest, `read_until(b'\n')` of the source. -/
def takeLine : List UInt8 → List UInt8 × List UInt8
  | [] => ([], [])
  | b :: bs => if b = newline then ([b], bs) else (b :: (takeLine bs).1, (takeLine bs).2)

theorem takeLine_append {body : List UInt8} (h : newline ∉ body) (rest : List UInt8) :
    takeLine (body ++ newline :: rest) = (body ++ [newline], rest) := by
  induction body with
  | nil => simp [takeLine]
  | cons b body ih =>
      rw [List.mem_cons, not_or] at h
      simp [takeLine, Ne.symm h.1, ih h.2]

theorem takeLine_of_notMem {bytes : List UInt8} (h : newline ∉ bytes) : takeLine bytes = (bytes, []) := by
  induction bytes with
  | nil => rfl
  | cons b bytes ih =>
      rw [List.mem_cons, not_or] at h
      simp [takeLine, Ne.symm h.1, ih h.2]

theorem takeLine_rest_lt {bytes : List UInt8} (h : bytes ≠ []) : (takeLine bytes).2.length < bytes.length := by
  induction bytes with
  | nil => exact absurd rfl h
  | cons b bytes ih =>
      rw [takeLine]
      split_ifs
      · simp
      · by_cases hb : bytes = []
        · simp [hb, takeLine]
        · exact (ih hb).trans (by simp)

theorem takeLine_isPrefix (bytes : List UInt8) : (takeLine bytes).1 <+: bytes := by
  induction bytes with
  | nil => exact List.prefix_refl _
  | cons b bytes ih =>
      rw [takeLine]
      split_ifs
      · exact List.prefix_append [b] bytes
      · exact (List.prefix_cons_inj b).mpr ih

/-- A stream either starts with a whole line or has no newline at all. -/
theorem takeLine_cases (bytes : List UInt8) :
    (∃ body rest, newline ∉ body ∧ bytes = body ++ newline :: rest) ∨ newline ∉ bytes := by
  by_cases h : newline ∈ bytes
  · obtain ⟨body, rest, rfl, hbody⟩ := List.eq_append_cons_of_mem h
    exact Or.inl ⟨body, rest, hbody, rfl⟩
  · exact Or.inr h

/-- A first line that ends in a newline is not changed by what follows the stream. -/
theorem takeLine_append_of_complete {bytes : List UInt8} (h : (takeLine bytes).1.getLast? = some newline)
    (more : List UInt8) : takeLine (bytes ++ more) = ((takeLine bytes).1, (takeLine bytes).2 ++ more) := by
  rcases takeLine_cases bytes with ⟨body, rest, hbody, rfl⟩ | hno
  · rw [takeLine_append hbody, List.append_assoc, List.cons_append, takeLine_append hbody]
  · rw [takeLine_of_notMem hno] at h
    exact absurd (List.mem_of_getLast? h) hno

/-! ## Encodings of values as lines -/

/-- An encoding of values as non-empty lines, such as JSON objects without white space. An object is closed
by its own last byte only, so nothing that starts with unfinished or further objects decodes. -/
structure LineCodec (α : Type) where
  encode : α → List UInt8
  decode : List UInt8 → Option α
  decode_encode : ∀ a, decode (encode a) = some a
  newline_notMem : ∀ a, newline ∉ encode a
  encode_ne_nil : ∀ a, encode a ≠ []
  decode_garbled : ∀ (fragments : List (List UInt8)) (a : α), fragments ≠ [] →
    (∀ q ∈ fragments, q ≠ [] ∧ ∃ b, q <+: encode b) → decode (fragments.flatten ++ encode a) = none

namespace LineCodec

theorem encode_injective (c : LineCodec α) : Function.Injective c.encode := fun a b h =>
  Option.some.inj (by rw [← c.decode_encode a, ← c.decode_encode b, h])

section Short

open Classical

variable [Countable α] (values : List α)

noncomputable def shortSize (a : α) : Nat :=
  if a ∈ values then values.idxOf a else values.length + (exists_injective_nat α).choose a

theorem shortSize_injective : Function.Injective (shortSize values) := by
  intro a b h
  unfold shortSize at h
  split_ifs at h with ha hb hb
  · exact (List.idxOf_inj ha).mp h
  · exact absurd (List.idxOf_lt_length_iff.mpr ha) (by omega)
  · exact absurd (List.idxOf_lt_length_iff.mpr hb) (by omega)
  · exact (exists_injective_nat α).choose_spec (Nat.add_left_cancel h)

theorem shortSize_lt {a : α} (h : a ∈ values) : shortSize values a < values.length := by
  rw [shortSize, if_pos h]
  exact List.idxOf_lt_length_iff.mpr h

/-- An opening brace and as many letters as the number of the value. -/
noncomputable def shortEncode (a : α) : List UInt8 := 123 :: List.replicate (shortSize values a) 97

theorem shortEncode_injective : Function.Injective (shortEncode values) := by
  intro a b h
  have hlen := congrArg List.length h
  simp only [shortEncode, List.length_cons, List.length_replicate, Nat.add_right_cancel_iff] at hlen
  exact shortSize_injective values hlen

theorem shortEncode_garbled (fragments : List (List UInt8)) (a b : α) (hne : fragments ≠ [])
    (hfrag : ∀ q ∈ fragments, q ≠ [] ∧ ∃ b, q <+: shortEncode values b) :
    shortEncode values b ≠ fragments.flatten ++ shortEncode values a := by
  intro h
  obtain ⟨q, rest, rfl⟩ := List.exists_cons_of_ne_nil hne
  obtain ⟨hq, c, hc⟩ := hfrag q List.mem_cons_self
  obtain ⟨x, q', rfl⟩ := List.exists_cons_of_ne_nil hq
  rw [shortEncode, List.cons_prefix_cons] at hc
  have hcount := congrArg (List.count 123) h
  simp [shortEncode, hc.1, List.count_replicate] at hcount

/-- A codec for any countable type, whose lines are short for the given values. -/
noncomputable def short : LineCodec α where
  encode := shortEncode values
  decode bytes := if h : ∃ a, shortEncode values a = bytes then some h.choose else none
  decode_encode a := by
    have h : ∃ b, shortEncode values b = shortEncode values a := ⟨a, rfl⟩
    rw [dif_pos h, shortEncode_injective values h.choose_spec]
  newline_notMem a := by simp [shortEncode, newline, List.mem_replicate]
  encode_ne_nil a := List.cons_ne_nil _ _
  decode_garbled fragments a hne hfrag :=
    dif_neg fun ⟨b, hb⟩ => shortEncode_garbled values fragments a b hne hfrag hb

/-- The law of the codec with no given values, as a field of another structure takes it. -/
theorem decode_encode_short (a : α) : (short []).decode ((short []).encode a) = some a := (short []).decode_encode a

theorem length_short_encode_le {a : α} (h : a ∈ values) : ((short values).encode a).length ≤ values.length := by
  have := shortSize_lt values h
  simp only [short, shortEncode, List.length_cons, List.length_replicate]
  omega

theorem length_short_encode_le_left {before : List α} (after : List α) {a : α} (h : a ∈ before) :
    ((short (before ++ after)).encode a).length ≤ before.length := by
  have hsize : shortSize (before ++ after) a < before.length := by
    rw [shortSize, if_pos (List.mem_append_left after h), List.idxOf_append_of_mem h]
    exact List.idxOf_lt_length_iff.mpr h
  simp only [short, shortEncode, List.length_cons, List.length_replicate]
  exact hsize

/-- A value that comes after others in the list is at least as long as they are many. -/
theorem lt_length_short_encode {before after : List α} {a : α} (hbefore : a ∉ before) (hafter : a ∈ after) :
    before.length < ((short (before ++ after)).encode a).length := by
  have hsize : before.length ≤ shortSize (before ++ after) a := by
    rw [shortSize, if_pos (List.mem_append_right _ hafter), List.idxOf_append_of_notMem hbefore]
    exact Nat.le_add_right _ _
  simp only [short, shortEncode, List.length_cons, List.length_replicate]
  omega

end Short

end LineCodec

end HyperTerm.Lib
