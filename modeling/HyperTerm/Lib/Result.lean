import Mathlib.Data.List.Forall2
import Mathlib.Logic.Basic

/-!
# Fallible computations

`okOr` is `ok_or` of the source. The lemmas below take a computation that succeeded apart into the
computations it is made of.
-/

namespace HyperTerm.Lib

variable {ε α β : Type}

/-- `Option::ok_or`. -/
def okOr (o : Option α) (e : ε) : Except ε α :=
  match o with
  | some a => .ok a
  | none => .error e

@[simp] theorem okOr_eq_ok {o : Option α} {e : ε} {a : α} : okOr o e = .ok a ↔ o = some a := by
  cases o <;> simp [okOr]

@[simp] theorem bind_eq_ok {x : Except ε α} {f : α → Except ε β} {b : β} :
    (x >>= f) = .ok b ↔ ∃ a, x = .ok a ∧ f a = .ok b := by
  cases x with
  | ok a => simp [bind, Except.bind]
  | error e => simp [bind, Except.bind]

@[simp] theorem pure_eq_ok {a b : α} : (pure a : Except ε α) = .ok b ↔ a = b := by
  simp [pure, Except.pure]

@[simp] theorem mapError_eq_ok {ε' : Type} {x : Except ε α} {f : ε → ε'} {a : α} :
    x.mapError f = .ok a ↔ x = .ok a := by
  cases x with
  | ok b =>
      change Except.ok b = Except.ok a ↔ _
      rw [Except.ok.injEq, Except.ok.injEq]
  | error e => exact ⟨fun h => (nomatch h), fun h => (nomatch h)⟩

theorem map_eq_ok {x : Except ε α} {f : α → β} {b : β} : x.map f = .ok b ↔ ∃ a, x = .ok a ∧ f a = b := by
  cases x with
  | ok a =>
      show Except.ok (f a) = Except.ok b ↔ _
      simp only [Except.ok.injEq, exists_eq_left']
  | error e =>
      show Except.error e = Except.ok b ↔ _
      simp only [reduceCtorEq, false_and, exists_false]

/-- A guard that was passed. -/
theorem ite_error_eq_ok {p : Prop} [Decidable p] {e : ε} {x : Except ε α} {a : α} :
    (if p then .error e else x) = .ok a ↔ ¬p ∧ x = .ok a := by
  split
  · rename_i hp
    constructor
    · intro h
      cases h
    · intro h
      exact absurd hp h.1
  · rename_i hp
    exact (and_iff_right hp).symm

/-- A computation in steps fails with an error only when one of its steps does. -/
theorem bind_ne_error {x : Except ε α} {f : α → Except ε β} {e : ε} (hx : x ≠ .error e)
    (hf : ∀ a, f a ≠ .error e) : (x >>= f) ≠ .error e := by
  cases x with
  | ok a => exact hf a
  | error e' => exact fun h => hx (congrArg Except.error (Except.error.inj h))

/-- A fold of fallible steps over a list that ends in one more step. -/
theorem foldlM_concat_eq_ok {γ : Type} {f : γ → α → Except ε γ} {l : List α} {a : α} {s t : γ} :
    (l ++ [a]).foldlM f s = .ok t ↔ ∃ r, l.foldlM f s = .ok r ∧ f r a = .ok t := by
  rw [List.foldlM_append, bind_eq_ok]
  simp only [List.foldlM_cons, List.foldlM_nil, bind_pure]

/-! ## A computation for each element of a list -/

theorem mapM_eq_ok {f : α → Except ε β} {l : List α} {values : List β} :
    l.mapM f = .ok values ↔ List.Forall₂ (fun a b => f a = .ok b) l values := by
  induction l generalizing values with
  | nil =>
      rw [List.mapM_nil, pure_eq_ok, List.forall₂_nil_left_iff]
      exact eq_comm
  | cons a l ih =>
      simp only [List.mapM_cons, bind_eq_ok, pure_eq_ok, List.forall₂_cons_left_iff, ih]
      constructor
      · rintro ⟨b, hb, rest, hrest, rfl⟩
        exact ⟨b, rest, hb, hrest, rfl⟩
      · rintro ⟨b, rest, hb, hrest, rfl⟩
        exact ⟨b, hb, rest, hrest, rfl⟩

/-- Values that the computation gives back. -/
theorem mapM_map_eq_ok {f : α → Except ε β} {g : β → α} {values : List β} (h : ∀ b ∈ values, f (g b) = .ok b) :
    (values.map g).mapM f = .ok values := by
  rw [mapM_eq_ok, List.forall₂_map_left_iff]
  exact List.forall₂_same.mpr h

theorem exists_mapM_eq_ok {f : α → Except ε β} {l : List α} (h : ∀ a ∈ l, ∃ b, f a = .ok b) :
    ∃ values, l.mapM f = .ok values := by
  induction l with
  | nil => exact ⟨[], rfl⟩
  | cons a l ih =>
      obtain ⟨⟨b, hb⟩, hl⟩ := List.forall_mem_cons.mp h
      obtain ⟨values, hvalues⟩ := ih hl
      exact ⟨b :: values, mapM_eq_ok.mpr (.cons hb (mapM_eq_ok.mp hvalues))⟩

/-- The values are those of the elements. -/
theorem mem_of_mapM_eq_ok {f : α → Except ε β} {l : List α} {values : List β} (h : l.mapM f = .ok values) :
    (∀ b, b ∈ values ↔ ∃ a ∈ l, f a = .ok b) ∧ ∀ a ∈ l, ∃ b, f a = .ok b := by
  have hall := mapM_eq_ok.mp h
  clear h
  induction hall with
  | nil => exact ⟨fun b => by simp, List.forall_mem_nil _⟩
  | @cons a b l values hhead _ ih =>
      obtain ⟨hmem, htotal⟩ := ih
      refine ⟨fun b' => ?_, List.forall_mem_cons.mpr ⟨⟨b, hhead⟩, htotal⟩⟩
      rw [List.mem_cons, hmem, List.exists_mem_cons_iff, hhead, Except.ok.injEq]
      exact or_congr_left eq_comm

end HyperTerm.Lib
