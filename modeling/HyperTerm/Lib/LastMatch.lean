import Mathlib.Data.List.Infix
import Mathlib.Order.Basic
import Mathlib.Data.List.Lex
import Mathlib.Order.Lattice

/-!
# Lists of rules of which the last one counts

`lastMatch` : the last element of a list that matches.

* `lastMatch_append`, `lastMatch_cons` : later elements come first;
* `lastMatch_isPrefix` : when the elements are in the order of their keys and match what their key is the beginning of,
  the last match has the longest key.
-/

namespace HyperTerm.Lib

variable {α β : Type} {p : α → Bool} {l l' : List α} {a : α}

def lastMatch (p : α → Bool) (l : List α) : Option α := (l.filter p).getLast?

theorem lastMatch_append : lastMatch p (l ++ l') = (lastMatch p l').or (lastMatch p l) := by
  unfold lastMatch
  rw [List.filter_append, List.getLast?_append]

theorem lastMatch_cons : lastMatch p (a :: l) = (lastMatch p l).or (if p a then some a else none) := by
  rw [← List.singleton_append, lastMatch_append]
  refine congrArg _ ?_
  unfold lastMatch
  by_cases ha : p a
  · rw [if_pos ha, List.filter_cons_of_pos ha]
    rfl
  · rw [if_neg ha, List.filter_cons_of_neg ha]
    rfl

theorem mem_of_lastMatch (h : lastMatch p l = some a) : a ∈ l ∧ p a :=
  List.mem_filter.mp (List.mem_of_getLast? h)

theorem exists_lastMatch (ha : a ∈ l) (hp : p a) : ∃ b, lastMatch p l = some b := by
  have hne : l.filter p ≠ [] := List.ne_nil_of_mem (List.mem_filter.mpr ⟨ha, hp⟩)
  exact ⟨(l.filter p).getLast hne, List.getLast?_eq_some_getLast hne⟩

/-- Every other match stands before the last one. -/
theorem eq_or_before_of_lastMatch {r : α → α → Prop} (hsorted : l.Pairwise r) (h : lastMatch p l = some a) {b : α}
    (hb : b ∈ l) (hp : p b) : b = a ∨ r b a := by
  unfold lastMatch at h
  obtain ⟨before, hbefore⟩ := List.getLast?_eq_some_iff.mp h
  have hmem : b ∈ l.filter p := List.mem_filter.mpr ⟨hb, hp⟩
  have hrest := hsorted.sublist (List.filter_sublist (p := p) (l := l))
  rw [hbefore] at hmem hrest
  rcases List.mem_append.mp hmem with hmem | hmem
  · exact Or.inr ((List.pairwise_append.mp hrest).2.2 b hmem a (List.mem_singleton_self a))
  · exact Or.inl (List.mem_singleton.mp hmem)

variable [LinearOrder β]

/-- Of the keys that the list begins with, the last in the order is the longest. -/
theorem lastMatch_isPrefix {key : α → List β} {path : List β} (hp : ∀ a, p a = true ↔ key a <+: path)
    (hsorted : l.Pairwise fun a b => key a < key b) (h : lastMatch p l = some a) {b : α} (hb : b ∈ l)
    (hpath : key b <+: path) : key b <+: key a := by
  obtain ⟨-, ha⟩ := mem_of_lastMatch h
  rcases eq_or_before_of_lastMatch hsorted h hb ((hp b).mpr hpath) with rfl | hlt
  · exact List.prefix_refl _
  · refine (List.prefix_or_prefix_of_prefix hpath ((hp a).mp ha)).resolve_right fun hback => ?_
    exact absurd hlt hback.le

end HyperTerm.Lib
