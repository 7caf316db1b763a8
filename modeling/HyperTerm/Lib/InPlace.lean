import Mathlib.Data.List.Induction
import Mathlib.Tactic.SplitIfs

/-!
# Methods on a mutable receiver

A method on `&mut self` returns a result and leaves a receiver behind, also when it fails: what it changed before the
error stays changed. `InPlace` keeps both, so that "a failed call changes nothing" says something of the method and
not of its type.

* `InPlace.Reads` : the method only looks at the receiver;
* `InPlace.Clean` : if the method fails, the receiver is as it was. Checks that only look, followed by changes that
  cannot fail, are clean;
* `InPlace.forEach` : a loop, left with the first error. What the steps before it have made stays;
* `leaves`, `successes` : the receiver after a history of calls, and the calls of it that succeeded with their results;
* `history_of`, `history` : what every call preserves holds after every history; for clean calls, what every success
  preserves.
-/

namespace HyperTerm.Lib

variable {σ ε α β ι : Type}

abbrev InPlace (σ ε : Type) := ExceptT ε (StateM σ)

namespace InPlace

/-- The result of the call and the receiver it leaves. -/
def call (m : InPlace σ ε α) (s : σ) : Except ε α × σ := StateT.run (ExceptT.run m) s

@[simp] theorem call_pure (a : α) (s : σ) : (pure a : InPlace σ ε α).call s = (.ok a, s) := rfl

@[simp] theorem call_throw (e : ε) (s : σ) : (throw e : InPlace σ ε α).call s = (.error e, s) := rfl

/-- The receiver. -/
def self : InPlace σ ε σ := get

@[simp] theorem call_self (s : σ) : (self : InPlace σ ε σ).call s = (.ok s, s) := rfl

@[simp] theorem call_modify (f : σ → σ) (s : σ) : (modify f : InPlace σ ε PUnit).call s = (.ok ⟨⟩, f s) := rfl

/-- A value that was computed without the receiver, with `?`. -/
def ofExcept (x : Except ε α) : InPlace σ ε α := ExceptT.mk (pure x)

@[simp] theorem call_ofExcept (x : Except ε α) (s : σ) : (ofExcept x : InPlace σ ε α).call s = (x, s) := rfl

theorem call_bind (m : InPlace σ ε α) (f : α → InPlace σ ε β) (s : σ) :
    (m >>= f).call s = match m.call s with
      | (.ok a, s') => (f a).call s'
      | (.error e, s') => (.error e, s') := by
  show (ExceptT.bindCont f (m.call s).1).run (m.call s).2 = _
  rcases m.call s with ⟨e | a, s'⟩ <;> rfl

/-- `if p { return Err(e) }`. -/
def refuseIf (p : Prop) [Decidable p] (e : ε) : InPlace σ ε PUnit := if p then throw e else pure ⟨⟩

theorem call_bind_eq_ok {m : InPlace σ ε α} {f : α → InPlace σ ε β} {s s' : σ} {b : β} :
    (m >>= f).call s = (.ok b, s') ↔ ∃ a t, m.call s = (.ok a, t) ∧ (f a).call t = (.ok b, s') := by
  rw [call_bind]
  rcases m.call s with ⟨e | a, t⟩
  · constructor
    · exact fun h => nomatch congrArg Prod.fst h
    · exact fun ⟨_, _, h, _⟩ => nomatch congrArg Prod.fst h
  · refine ⟨fun h => ⟨a, t, rfl, h⟩, fun ⟨_, _, h, hf⟩ => ?_⟩
    obtain ⟨ha, rfl⟩ := Prod.mk.inj h
    obtain rfl := Except.ok.inj ha
    exact hf

theorem self_bind_eq_ok {f : σ → InPlace σ ε β} {s s' : σ} {b : β} :
    (self >>= f).call s = (.ok b, s') ↔ (f s).call s = (.ok b, s') := Iff.rfl

theorem ofExcept_bind_eq_ok {x : Except ε α} {f : α → InPlace σ ε β} {s s' : σ} {b : β} :
    (ofExcept x >>= f).call s = (.ok b, s') ↔ ∃ a, x = .ok a ∧ (f a).call s = (.ok b, s') := by
  rw [call_bind, call_ofExcept]
  cases x with
  | error e => exact ⟨fun h => (nomatch congrArg Prod.fst h), fun ⟨_, h, _⟩ => (nomatch h)⟩
  | ok a => exact ⟨fun h => ⟨a, rfl, h⟩, fun ⟨_, h, hf⟩ => Except.ok.inj h ▸ hf⟩

theorem refuseIf_congr {p q : Prop} [Decidable p] [Decidable q] (h : p ↔ q) (e : ε) :
    (refuseIf p e : InPlace σ ε PUnit) = refuseIf q e := by
  unfold refuseIf
  by_cases hp : p
  · rw [if_pos hp, if_pos (h.mp hp)]
  · rw [if_neg hp, if_neg fun hq => hp (h.mpr hq)]

theorem call_refuseIf_pos {p : Prop} [Decidable p] (hp : p) (e : ε) (f : PUnit → InPlace σ ε β) (s : σ) :
    (refuseIf p e >>= f).call s = (.error e, s) := by
  rw [call_bind, refuseIf, if_pos hp]
  rfl

theorem call_refuseIf_neg {p : Prop} [Decidable p] (hp : ¬p) (e : ε) (f : PUnit → InPlace σ ε β) (s : σ) :
    (refuseIf p e >>= f).call s = (f ⟨⟩).call s := by
  rw [call_bind, refuseIf, if_neg hp]
  rfl

theorem refuseIf_bind_eq_ok {p : Prop} [Decidable p] {e : ε} {f : PUnit → InPlace σ ε β} {s s' : σ} {b : β} :
    (refuseIf p e >>= f).call s = (.ok b, s') ↔ ¬p ∧ (f ⟨⟩).call s = (.ok b, s') := by
  by_cases hp : p
  · rw [call_refuseIf_pos hp]
    exact ⟨fun h => (nomatch congrArg Prod.fst h), fun h => absurd hp h.1⟩
  · rw [call_refuseIf_neg hp]
    exact ⟨fun h => ⟨hp, h⟩, fun h => h.2⟩

theorem call_bind_ok {m : InPlace σ ε α} {f : α → InPlace σ ε β} {s s' : σ} {a : α} (h : m.call s = (.ok a, s')) :
    (m >>= f).call s = (f a).call s' := by
  rw [call_bind, h]

theorem call_bind_error {m : InPlace σ ε α} {f : α → InPlace σ ε β} {s s' : σ} {e : ε}
    (h : m.call s = (.error e, s')) : (m >>= f).call s = (.error e, s') := by
  rw [call_bind, h]

/-! ## Methods that leave the receiver alone -/

def Reads (m : InPlace σ ε α) : Prop := ∀ s, (m.call s).2 = s

def Clean (m : InPlace σ ε α) : Prop := ∀ s e, (m.call s).1 = .error e → (m.call s).2 = s

theorem reads_pure (a : α) : Reads (pure a : InPlace σ ε α) := fun _ => rfl

theorem reads_throw (e : ε) : Reads (throw e : InPlace σ ε α) := fun _ => rfl

theorem reads_self : Reads (self : InPlace σ ε σ) := fun _ => rfl

theorem reads_ofExcept (x : Except ε α) : Reads (ofExcept x : InPlace σ ε α) := fun _ => rfl

theorem reads_refuseIf (p : Prop) [Decidable p] (e : ε) : Reads (refuseIf p e : InPlace σ ε PUnit) := by
  intro s
  unfold refuseIf
  split_ifs <;> rfl

theorem Reads.clean {m : InPlace σ ε α} (h : Reads m) : Clean m := fun s _ _ => h s

theorem clean_modify (f : σ → σ) : Clean (modify f : InPlace σ ε PUnit) := fun _ _ h => nomatch h

/-- After a look at the receiver, what follows decides. -/
theorem Reads.bind {m : InPlace σ ε α} {f : α → InPlace σ ε β} (hm : Reads m) (hf : ∀ a, Clean (f a)) :
    Clean (m >>= f) := by
  intro s e
  have hs := hm s
  rw [call_bind]
  obtain ⟨r, s', hcall⟩ : ∃ r s', m.call s = (r, s') := ⟨_, _, rfl⟩
  rw [hcall] at hs ⊢
  obtain rfl : s' = s := hs
  cases r with
  | error e' => exact fun _ => rfl
  | ok a => exact hf a _ e

/-- After a clean step, what follows must not fail. -/
theorem Clean.bind {m : InPlace σ ε α} {f : α → InPlace σ ε β} (hm : Clean m)
    (hf : ∀ a s e, ((f a).call s).1 ≠ .error e) : Clean (m >>= f) := by
  intro s e h
  rw [call_bind] at h ⊢
  obtain ⟨r, s', hcall⟩ : ∃ r s', m.call s = (r, s') := ⟨_, _, rfl⟩
  have hs := hm s
  rw [hcall] at hs h ⊢
  cases r with
  | error e' => exact hs e' rfl
  | ok a => exact absurd h (hf a s' e)

theorem Clean.ite {p : Prop} [Decidable p] {m m' : InPlace σ ε α} (h : Clean m) (h' : Clean m') :
    Clean (if p then m else m') := by
  by_cases hp : p
  · rwa [if_pos hp]
  · rwa [if_neg hp]

/-! ## Loops -/

/-- A step that computes the next receiver from the one it finds. -/
def update (f : σ → Except ε σ) : InPlace σ ε PUnit := do
  let s ← self
  let s' ← ofExcept (f s)
  modify fun _ => s'

theorem call_update_ok {f : σ → Except ε σ} {s s' : σ} (h : f s = .ok s') : (update f).call s = (.ok ⟨⟩, s') := by
  have hcomputed : (ofExcept (f s) : InPlace σ ε σ).call s = (.ok s', s) := by rw [call_ofExcept, h]
  unfold update
  rw [call_bind_ok (call_self s), call_bind_ok hcomputed]
  rfl

theorem call_update_error {f : σ → Except ε σ} {s : σ} {e : ε} (h : f s = .error e) :
    (update f).call s = (.error e, s) := by
  unfold update
  rw [call_bind_ok (call_self s)]
  exact call_bind_error (by rw [call_ofExcept, h])

/-- A loop over a list, left with the first error. -/
def forEach (step : ι → InPlace σ ε PUnit) : List ι → InPlace σ ε PUnit
  | [] => pure ⟨⟩
  | i :: l => do
      step i
      forEach step l

/-- A loop of updates that succeeds is the fold of them. -/
theorem forEach_update_ok {f : σ → ι → Except ε σ} {l : List ι} {s t : σ} (h : l.foldlM f s = .ok t) :
    (forEach (fun i => update (f · i)) l).call s = (.ok ⟨⟩, t) := by
  induction l generalizing s with
  | nil =>
      obtain rfl := Except.ok.inj h
      rfl
  | cons i l ih =>
      rw [List.foldlM_cons] at h
      cases hstep : f s i with
      | error e =>
          rw [hstep] at h
          cases h
      | ok s' =>
          rw [hstep] at h
          rw [forEach, call_bind_ok (call_update_ok hstep)]
          exact ih h

/-- A loop of updates that fails leaves what the updates before the one that failed have made. -/
theorem forEach_update_error {f : σ → ι → Except ε σ} {done rest : List ι} {failing : ι} {s t : σ} {e : ε}
    (hdone : done.foldlM f s = .ok t) (hfailing : f t failing = .error e) :
    (forEach (fun i => update (f · i)) (done ++ failing :: rest)).call s = (.error e, t) := by
  induction done generalizing s with
  | nil =>
      obtain rfl := Except.ok.inj hdone
      exact call_bind_error (call_update_error hfailing)
  | cons i done ih =>
      rw [List.foldlM_cons] at hdone
      cases hstep : f s i with
      | error e' =>
          rw [hstep] at hdone
          cases hdone
      | ok s' =>
          rw [hstep] at hdone
          rw [List.cons_append, forEach, call_bind_ok (call_update_ok hstep)]
          exact ih hdone

/-- A fold of fallible steps succeeds, or fails at one of them. -/
theorem foldlM_ok_or_error (f : σ → ι → Except ε σ) (l : List ι) (s : σ) :
    (∃ t, l.foldlM f s = .ok t) ∨
      ∃ done failing rest t e, l = done ++ failing :: rest ∧ done.foldlM f s = .ok t ∧ f t failing = .error e := by
  induction l generalizing s with
  | nil => exact Or.inl ⟨s, rfl⟩
  | cons i l ih =>
      rw [List.foldlM_cons]
      cases hstep : f s i with
      | error e => exact Or.inr ⟨[], i, l, s, e, rfl, rfl, hstep⟩
      | ok s' =>
          obtain ⟨t, ht⟩ | ⟨done, failing, rest, t, e, rfl, hdone, hfailing⟩ := ih s'
          · exact Or.inl ⟨t, ht⟩
          · refine Or.inr ⟨i :: done, failing, rest, t, e, rfl, ?_, hfailing⟩
            rw [List.foldlM_cons, hstep]
            exact hdone

/-! ## Histories of calls -/

variable (method : ι → InPlace σ ε α)

/-- The receiver after the calls. -/
def leaves (s : σ) (calls : List ι) : σ := calls.foldl (fun s c => ((method c).call s).2) s

/-- The calls that succeed, with their results. -/
def successes : σ → List ι → List (ι × α)
  | _, [] => []
  | s, c :: calls =>
      match (method c).call s with
      | (.ok a, s') => (c, a) :: successes s' calls
      | (.error _, s') => successes s' calls

theorem leaves_append (s : σ) (calls later : List ι) :
    leaves method s (calls ++ later) = leaves method (leaves method s calls) later := List.foldl_append

theorem successes_append (s : σ) (calls later : List ι) :
    successes method s (calls ++ later) =
      successes method s calls ++ successes method (leaves method s calls) later := by
  induction calls generalizing s with
  | nil => rfl
  | cons c calls ih =>
      show successes method s (c :: (calls ++ later)) = _
      rw [successes, successes, show leaves method s (c :: calls) = leaves method ((method c).call s).2 calls from rfl]
      rcases (method c).call s with ⟨e | a, s'⟩
      · exact ih s'
      · exact congrArg _ (ih s')

variable {method}

theorem successes_ok {s s' : σ} {c : ι} {a : α} (h : (method c).call s = (.ok a, s')) :
    successes method s [c] = [(c, a)] := by
  simp only [successes, h]

theorem successes_error {s s' : σ} {c : ι} {e : ε} (h : (method c).call s = (.error e, s')) :
    successes method s [c] = [] := by
  simp only [successes, h]

/-- **Main result.** What holds at first and every call preserves, successful or not, holds after every history. -/
theorem history_of {P : List (ι × α) → σ → Prop} {s : σ} (h₀ : P [] s)
    (herror : ∀ done s c e s', P done s → (method c).call s = (.error e, s') → P done s')
    (hok : ∀ done s c a s', P done s → (method c).call s = (.ok a, s') → P (done ++ [(c, a)]) s')
    (calls : List ι) : P (successes method s calls) (leaves method s calls) := by
  induction calls using List.reverseRecOn with
  | nil => exact h₀
  | append_singleton calls c ih =>
      rw [successes_append, leaves_append]
      show P (_ ++ successes method (leaves method s calls) [c]) ((method c).call (leaves method s calls)).2
      obtain ⟨r, s', hcall⟩ : ∃ r s', (method c).call (leaves method s calls) = (r, s') := ⟨_, _, rfl⟩
      rw [hcall]
      cases r with
      | error e =>
          rw [successes_error hcall, List.append_nil]
          exact herror _ _ _ _ _ ih hcall
      | ok a =>
          rw [successes_ok hcall]
          exact hok _ _ _ _ _ ih hcall

/-- The history of clean calls: what holds at first and every success preserves holds after it. -/
theorem history {P : List (ι × α) → σ → Prop} {s : σ} (hclean : ∀ c, Clean (method c)) (h₀ : P [] s)
    (hstep : ∀ done s c a s', P done s → (method c).call s = (.ok a, s') → P (done ++ [(c, a)]) s')
    (calls : List ι) : P (successes method s calls) (leaves method s calls) := by
  refine history_of h₀ (fun done s c e s' h hcall => ?_) hstep calls
  obtain rfl : s' = s := by
    have hsame := hclean c s e (by rw [hcall])
    rwa [hcall] at hsame
  exact h

end InPlace

end HyperTerm.Lib
