import HyperTerm.Lib.Result

/-!
# Runs of a partial step function

A component that takes one action after another, each of which may not be possible, is a function into `Option`.

* `runFrom` : the state after a list of actions;
* `invariant_run` : what every step keeps holds after every run;
* `Along` : a condition that every action of a run meets, in the state it is taken in;
* `invariant_along` : what every step keeps that meets the condition;
* `Execution`, `Execution.leads` : a run that does not end, and what an action that is bound to occur leads to.
-/

namespace HyperTerm.Lib

variable {σ α : Type} {step : σ → α → Option σ} {s s' : σ} {action : α} {actions actions' : List α}

def runFrom (step : σ → α → Option σ) (s : σ) (actions : List α) : Option σ := actions.foldlM step s

@[simp] theorem runFrom_nil : runFrom step s [] = some s := rfl

theorem runFrom_cons_eq_some :
    runFrom step s (action :: actions) = some s' ↔ ∃ t, step s action = some t ∧ runFrom step t actions = some s' := by
  unfold runFrom
  rw [List.foldlM_cons]
  exact Option.bind_eq_some_iff

theorem runFrom_append_eq_some :
    runFrom step s (actions ++ actions') = some s' ↔
      ∃ t, runFrom step s actions = some t ∧ runFrom step t actions' = some s' := by
  unfold runFrom
  rw [List.foldlM_append]
  exact Option.bind_eq_some_iff

theorem runFrom_concat_eq_some :
    runFrom step s (actions ++ [action]) = some s' ↔ ∃ t, runFrom step s actions = some t ∧ step t action = some s' := by
  rw [runFrom_append_eq_some]
  refine exists_congr fun t => and_congr_right fun _ => ?_
  rw [runFrom_cons_eq_some]
  constructor
  · rintro ⟨u, hu, hs⟩
    rw [hu, ← hs, runFrom_nil]
  · intro hs
    exact ⟨s', hs, rfl⟩

theorem invariant_run {inv : σ → Prop} (hstep : ∀ s action s', inv s → step s action = some s' → inv s') (hs : inv s)
    (hrun : runFrom step s actions = some s') : inv s' := by
  induction actions generalizing s with
  | nil => exact Option.some.inj hrun ▸ hs
  | cons action actions ih =>
      obtain ⟨t, ht, hrest⟩ := runFrom_cons_eq_some.mp hrun
      exact ih (hstep s action t hs ht) hrest

/-! ## Conditions on the steps -/

def Along (step : σ → α → Option σ) (ok : σ → α → Prop) : σ → List α → Prop
  | _, [] => True
  | s, action :: actions => ok s action ∧ ∀ t, step s action = some t → Along step ok t actions

theorem invariant_along (inv : σ → Prop) {ok : σ → α → Prop}
    (hstep : ∀ s action s', inv s → ok s action → step s action = some s' → inv s') (hs : inv s)
    (hok : Along step ok s actions) (hrun : runFrom step s actions = some s') : inv s' := by
  induction actions generalizing s with
  | nil => exact Option.some.inj hrun ▸ hs
  | cons action actions ih =>
      obtain ⟨t, ht, hrest⟩ := runFrom_cons_eq_some.mp hrun
      exact ih (hstep s action t hs hok.1 ht) (hok.2 t ht) hrest

/-! ## Executions without end -/

/-- At every moment an action is taken or nothing happens. -/
structure Execution (step : σ → α → Option σ) where
  state : Nat → σ
  event : Nat → Option α
  next : ∀ n, match event n with
    | none => state (n + 1) = state n
    | some action => step (state n) action = some (state (n + 1))

namespace Execution

variable (run : Execution step)

theorem moves (n : Nat) : run.state (n + 1) = run.state n ∨
    ∃ action, run.event n = some action ∧ step (run.state n) action = some (run.state (n + 1)) := by
  have hnext := run.next n
  cases hevent : run.event n with
  | none =>
      rw [hevent] at hnext
      exact Or.inl hnext
  | some action =>
      rw [hevent] at hnext
      exact Or.inr ⟨action, rfl, hnext⟩

theorem step_of_event {n : Nat} (hevent : run.event n = some action) :
    step (run.state n) action = some (run.state (n + 1)) := by
  have hnext := run.next n
  rw [hevent] at hnext
  exact hnext

theorem invariant {inv : σ → Prop} (hstep : ∀ s action s', inv s → step s action = some s' → inv s')
    (hs : inv (run.state 0)) (n : Nat) : inv (run.state n) := by
  induction n with
  | zero => exact hs
  | succ n ih =>
      rcases run.moves n with hsame | ⟨action, -, hmove⟩
      · exact hsame ▸ ih
      · exact hstep _ _ _ ih hmove

/-- What every step keeps from some moment on. -/
theorem keeps {inv : σ → Prop} (hstep : ∀ s action s', inv s → step s action = some s' → inv s') {n m : Nat}
    (hle : n ≤ m) (hs : inv (run.state n)) : inv (run.state m) := by
  induction hle with
  | refl => exact hs
  | @step m _ ih =>
      rcases run.moves m with hsame | ⟨action, -, hmove⟩
      · exact hsame ▸ ih
      · exact hstep _ _ _ ih hmove

/-- A state lasts until a goal is reached. -/
theorem lasts {P Q : σ → Prop} (hstep : ∀ s action s', P s → step s action = some s' → P s' ∨ Q s') {n m : Nat}
    (hle : n ≤ m) (hn : P (run.state n)) : P (run.state m) ∨ ∃ i, n ≤ i ∧ Q (run.state i) := by
  induction hle with
  | refl => exact Or.inl hn
  | @step m hle ih =>
      rcases ih with hP | hreached
      · rcases run.moves m with hsame | ⟨action, -, hmove⟩
        · exact Or.inl (hsame ▸ hP)
        · exact (hstep _ _ _ hP hmove).imp_right fun hQ => ⟨m + 1, Nat.le_succ_of_le hle, hQ⟩
      · exact Or.inr hreached

/-- The action that ends the state is bound to occur, so the goal is reached. -/
theorem leads (P Q : σ → Prop) (ends : σ → α → Prop)
    (hstep : ∀ s action s', P s → step s action = some s' → P s' ∨ Q s')
    (hends : ∀ s action s', P s → ends s action → step s action = some s' → Q s') {n : Nat} (hn : P (run.state n))
    (hoccurs : ∃ m, n ≤ m ∧ ∃ action, run.event m = some action ∧ ends (run.state m) action) :
    ∃ i, n ≤ i ∧ Q (run.state i) := by
  obtain ⟨m, hle, action, hevent, hend⟩ := hoccurs
  rcases run.lasts hstep hle hn with hP | hreached
  · exact ⟨m + 1, Nat.le_succ_of_le hle, hends _ _ _ hP hend (run.step_of_event hevent)⟩
  · exact hreached

end Execution

end HyperTerm.Lib
