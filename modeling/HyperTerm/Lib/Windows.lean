import Mathlib.Data.List.Basic
import Mathlib.Data.List.Infix

/-!
# Searching a list for a pattern

`windows`, `position` : `windows(n)` of a slice, and the first window that is the pattern.

* `FirstAt` : the pattern stands at a place and at no place before it. `position_eq_some` : this is what is found;
* `position_append` : what is found stays found when more follows. `position_append_of_none` : what is only found with
  more does not end before it;
* `take_position`, `eq_append_of_position` : the list around the place.
-/

namespace HyperTerm.Lib

variable {α : Type}

/-- The pattern stands at place `i`. -/
def StandsAt (pattern l : List α) (i : Nat) : Prop :=
  i + pattern.length ≤ l.length ∧ (l.drop i).take pattern.length = pattern

/-- The pattern stands at place `i` and nowhere before it. -/
def FirstAt (pattern l : List α) (i : Nat) : Prop := StandsAt pattern l i ∧ ∀ j < i, ¬StandsAt pattern l j

/-- Whether the pattern stands at a place is a matter of the elements up to its end. -/
theorem standsAt_append {pattern l : List α} {i : Nat} (more : List α) (h : i + pattern.length ≤ l.length) :
    StandsAt pattern (l ++ more) i ↔ StandsAt pattern l i := by
  have hdrop : ((l ++ more).drop i).take pattern.length = (l.drop i).take pattern.length := by
    rw [List.drop_append_of_le_length (by omega), List.take_append_of_le_length (by rw [List.length_drop]; omega)]
  unfold StandsAt
  rw [hdrop, List.length_append]
  exact ⟨fun hstands => ⟨h, hstands.2⟩, fun hstands => ⟨by omega, hstands.2⟩⟩

/-! ## What is found -/

/-- `windows(n)` of a slice, in order. -/
def windows (n : Nat) (l : List α) : List (List α) :=
  (List.range (l.length + 1 - n)).map fun i => (l.drop i).take n

variable [DecidableEq α]

/-- `windows(n).position(|window| window == pattern)`. -/
def position (pattern l : List α) : Option Nat :=
  (windows pattern.length l).findIdx? fun window => window = pattern

theorem any_windows (pattern l : List α) :
    ((windows pattern.length l).any fun window => window = pattern) = (position pattern l).isSome :=
  List.findIdx?_isSome.symm

theorem position_eq_some {pattern l : List α} {i : Nat} : position pattern l = some i ↔ FirstAt pattern l i := by
  unfold position FirstAt StandsAt
  rw [List.findIdx?_eq_some_iff_getElem]
  simp only [windows, List.length_map, List.length_range, List.getElem_map, List.getElem_range, decide_eq_true_eq]
  constructor
  · rintro ⟨hi, hfound, hbefore⟩
    exact ⟨⟨by omega, hfound⟩, fun j hj hstands => hbefore j hj hstands.2⟩
  · rintro ⟨⟨hi, hfound⟩, hbefore⟩
    exact ⟨by omega, hfound, fun j hj hstands => hbefore j hj ⟨by omega, hstands⟩⟩

theorem position_eq_none {pattern l : List α} : position pattern l = none ↔ ∀ i, ¬StandsAt pattern l i := by
  unfold position StandsAt
  rw [List.findIdx?_eq_none_iff]
  simp only [windows, List.mem_map, List.mem_range, decide_eq_false_iff_not]
  constructor
  · intro h i ⟨hi, hstands⟩
    exact h _ ⟨i, by omega, rfl⟩ hstands
  · rintro h window ⟨i, hi, rfl⟩ hstands
    exact h i ⟨by omega, hstands⟩

/-! ## Lists that grow -/

theorem position_append {pattern l : List α} {i : Nat} (more : List α) (h : position pattern l = some i) :
    position pattern (l ++ more) = some i := by
  obtain ⟨hstands, hbefore⟩ := position_eq_some.mp h
  have hi : i + pattern.length ≤ l.length := hstands.1
  refine position_eq_some.mpr ⟨(standsAt_append more hi).mpr hstands, fun j hj hearlier => hbefore j hj ?_⟩
  exact (standsAt_append more (by omega)).mp hearlier

/-- A pattern that only more elements complete ends among these. -/
theorem position_append_of_none {pattern l more : List α} {i : Nat} (hnone : position pattern l = none)
    (h : position pattern (l ++ more) = some i) : l.length < i + pattern.length := by
  by_contra hle
  have hstands := (position_eq_some.mp h).1
  exact position_eq_none.mp hnone i ((standsAt_append more (by omega)).mp hstands)

/-! ## The list around the place -/

theorem position_le_length {pattern l : List α} {i : Nat} (h : position pattern l = some i) :
    i + pattern.length ≤ l.length :=
  (position_eq_some.mp h).1.1

theorem take_position {pattern l : List α} {i : Nat} (h : position pattern l = some i) :
    l.take (i + pattern.length) = l.take i ++ pattern := by
  rw [List.take_add, (position_eq_some.mp h).1.2]

theorem eq_append_of_position {pattern l : List α} {i : Nat} (h : position pattern l = some i) :
    l = l.take i ++ (pattern ++ l.drop (i + pattern.length)) := by
  rw [← List.append_assoc, ← take_position h, List.take_append_drop]

end HyperTerm.Lib
