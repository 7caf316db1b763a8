import HyperTerm.Lib.Result
import Mathlib.Data.List.Basic
import Mathlib.Tactic.SplitIfs

/-!
# Checked access to a slice

`bytes[a..b]`, `bytes[i]` and the conversion of a slice into an array of fixed length abort the program when the
bounds are wrong. `Stop` tells such a fault from an error that the program returns, so that "never reads out of
bounds" is a statement about a function.

* `slice`, `index`, `fixed` : the accesses;
* `slice_of_eq`, `index_of_eq` : what they give in a list that is known by its parts;
* `split_at` : a list that is long enough has parts of the wanted lengths;
* `Faultless` : the computation may return an error but does not abort.
-/

namespace HyperTerm.Lib

variable {α ε : Type}

/-- How a function ends that returns no value. -/
inductive Stop (ε : Type) where
  | fault
  | error (e : ε)
  deriving DecidableEq

/-- `bytes[start..stop]`. -/
def slice (l : List α) (start stop : Nat) : Except (Stop ε) (List α) :=
  if start ≤ stop ∧ stop ≤ l.length then .ok ((l.drop start).take (stop - start)) else .error .fault

/-- `bytes[i]`. -/
def index (l : List α) (i : Nat) : Except (Stop ε) α := okOr l[i]? .fault

/-- `slice.try_into().expect(..)`, into an array of `n`. -/
def fixed (n : Nat) (l : List α) : Except (Stop ε) (List α) := if l.length = n then .ok l else .error .fault

/-- `if p { return Err(e) }`. -/
def refuse (p : Prop) [Decidable p] (e : ε) : Except (Stop ε) Unit := if p then .error (.error e) else .ok ()

theorem slice_of_eq {l before mid rest : List α} {start stop : Nat} (h : l = before ++ (mid ++ rest))
    (hstart : before.length = start) (hstop : start + mid.length = stop) :
    slice l start stop = (.ok mid : Except (Stop ε) (List α)) := by
  subst h hstart hstop
  unfold slice
  rw [if_pos ⟨by omega, by simp⟩, List.drop_left, Nat.add_sub_cancel_left, List.take_left]

/-- `bytes[..stop]`. -/
theorem slice_zero {l : List α} {stop : Nat} (h : stop ≤ l.length) :
    slice l 0 stop = (.ok (l.take stop) : Except (Stop ε) (List α)) :=
  if_pos ⟨Nat.zero_le stop, h⟩

/-- `bytes[start..]`. -/
theorem slice_length {l : List α} {start : Nat} (h : start ≤ l.length) :
    slice l start l.length = (.ok (l.drop start) : Except (Stop ε) (List α)) := by
  unfold slice
  rw [if_pos ⟨h, Nat.le_refl _⟩, List.take_of_length_le (Nat.le_of_eq List.length_drop)]

theorem index_of_eq {l before rest : List α} {a : α} {i : Nat} (h : l = before ++ a :: rest)
    (hi : before.length = i) : index l i = (.ok a : Except (Stop ε) α) := by
  subst h hi
  simp [index, okOr]

theorem fixed_of_length {l : List α} {n : Nat} (h : l.length = n) :
    fixed n l = (.ok l : Except (Stop ε) (List α)) := if_pos h

/-- The first part of a list that is long enough. -/
theorem split_at {l : List α} {n : Nat} (h : n ≤ l.length) : ∃ mid rest, l = mid ++ rest ∧ mid.length = n :=
  ⟨l.take n, l.drop n, (List.take_append_drop n l).symm, List.length_take_of_le h⟩

@[simp] theorem refuse_eq_ok {p : Prop} [Decidable p] {e : ε} {u : Unit} :
    (refuse p e : Except (Stop ε) Unit) = .ok u ↔ ¬p := by
  unfold refuse
  split_ifs with h
  · exact ⟨fun h => (nomatch h), fun hp => absurd h hp⟩
  · exact ⟨fun _ => h, fun _ => rfl⟩

/-! ## Computations that do not abort -/

def Faultless (x : Except (Stop ε) α) : Prop := x ≠ .error .fault

theorem faultless_ok (a : α) : Faultless (.ok a : Except (Stop ε) α) := fun h => nomatch h

theorem faultless_error (e : ε) : Faultless (.error (.error e) : Except (Stop ε) α) := fun h => nomatch h

theorem faultless_okOr (o : Option α) (e : ε) : Faultless (okOr o (.error e)) := by
  cases o with
  | none => exact faultless_error e
  | some a => exact faultless_ok a

theorem faultless_refuse (p : Prop) [Decidable p] (e : ε) : Faultless (refuse p e) := by
  unfold refuse
  split_ifs
  · exact faultless_error e
  · exact faultless_ok ()

theorem Faultless.bind {β : Type} {x : Except (Stop ε) α} {f : α → Except (Stop ε) β} (hx : Faultless x)
    (hf : ∀ a, Faultless (f a)) : Faultless (x >>= f) := by
  cases x with
  | error e => exact fun h => hx (congrArg _ (Except.error.inj h))
  | ok a => exact hf a

/-- What follows is only asked about for the values that there are. -/
theorem Faultless.bind_of_ok {β : Type} {x : Except (Stop ε) α} {f : α → Except (Stop ε) β} (hx : Faultless x)
    (hf : ∀ a, x = .ok a → Faultless (f a)) : Faultless (x >>= f) := by
  cases x with
  | error e => exact fun h => hx (congrArg _ (Except.error.inj h))
  | ok a => exact hf a rfl

theorem faultless_slice {l : List α} {start stop : Nat} (hle : start ≤ stop) (hstop : stop ≤ l.length) :
    Faultless (slice l start stop : Except (Stop ε) (List α)) := by
  unfold slice
  rw [if_pos ⟨hle, hstop⟩]
  exact faultless_ok _

theorem faultless_index {l : List α} {i : Nat} (h : i < l.length) : Faultless (index l i : Except (Stop ε) α) := by
  unfold index
  rw [List.getElem?_eq_getElem h]
  exact faultless_ok _

theorem faultless_foldlM {β : Type} {f : α → β → Except (Stop ε) α} (hf : ∀ a b, Faultless (f a b)) (l : List β) (a : α) :
    Faultless (l.foldlM f a) := by
  induction l generalizing a with
  | nil => exact faultless_ok a
  | cons b l ih =>
      rw [List.foldlM_cons]
      exact Faultless.bind (hf a b) ih

end HyperTerm.Lib
