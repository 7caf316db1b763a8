/-!
# Saturating addition

* `satAdd` : addition that stops at `top`, as fixed-width counters do;
* `satAdd_missing` : a part that is brought up to the total by what is missing makes up the total, and
  `add_missing_le` : it is not more than the total, even where the counters have stopped.
-/

namespace HyperTerm.Lib

def satAdd (top a b : Nat) : Nat := min (a + b) top

variable {top a b part more total : Nat}

theorem satAdd_le_top : satAdd top a b ≤ top := Nat.min_le_right _ _

theorem satAdd_le_add : satAdd top a b ≤ a + b := Nat.min_le_left _ _

@[simp] theorem satAdd_min_left : satAdd top (min a top) b = satAdd top a b := by
  unfold satAdd
  omega

/-- Only the sum matters, not where the counter stopped. -/
theorem satAdd_satAdd (c : Nat) : satAdd top (satAdd top a b) c = satAdd top a (b + c) := by
  unfold satAdd
  omega

theorem satAdd_eq_add (h : a + b ≤ top) : satAdd top a b = a + b := Nat.min_eq_left h

/-- Nothing is counted for more than it is. -/
theorem add_missing_le (h : part + more ≤ total) :
    part + satAdd top more (min total top - satAdd top part more) ≤ total := by
  unfold satAdd
  omega

theorem satAdd_missing (h : part + more ≤ total) :
    satAdd top part (satAdd top more (min total top - satAdd top part more)) = min total top := by
  unfold satAdd
  omega

end HyperTerm.Lib
