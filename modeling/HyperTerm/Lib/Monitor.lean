import HyperTerm.Lib.Threads

/-!
# Programs that run under one lock

A `Monitor` is a shared state with at most one program inside, the one that holds the lock. While it runs, others
change the state as far as they may do so without the lock.

* `Monitor.Step` : a program enters, performs an operation or leaves, or something happens outside the lock;
* `Prog.SafeIf` : safety of a program whose operations are performed under a condition only;
* `Prog.Triple` : a program with what is asked before and after it;
* `Prog.SafeIf.embed` : safety of a program on a part of the state;
* `Prog.Outcome` : how a program ends that others interfere with;
* `Monitor.reachable` : what every program keeps inside and establishes when it leaves holds in every run.
-/

namespace HyperTerm.Lib

variable {Op : Type} {Ans : Op → Type} {ε α β σ : Type}

/-! ## Safety under a condition -/

namespace Prog

variable (exec : (op : Op) → σ → σ × Ans op) (allowed : Op → σ → Prop) (rely : σ → σ → Prop) (inv : σ → Prop)

/-- Every operation that meets the condition keeps the invariant, and the result meets the postcondition, in spite of
steps of others within the rely. -/
def SafeIf (post : Except ε α → σ → Prop) : Prog Op Ans ε α → σ → Prop
  | ret r, s => ∀ s', rely s s' → inv s' → post r s'
  | call op next, s => ∀ s', rely s s' → inv s' → allowed op s' →
      inv (exec op s').1 ∧ (next (exec op s').2).SafeIf post (exec op s').1

variable {exec allowed rely inv} {post : Except ε α → σ → Prop}

theorem SafeIf.mono (trans : ∀ a b c, rely a b → rely b c → rely a c) {p : Prog Op Ans ε α} {s s' : σ}
    (h : p.SafeIf exec allowed rely inv post s) (hs : rely s s') : p.SafeIf exec allowed rely inv post s' := by
  cases p with
  | ret r => exact fun t ht hi => h t (trans _ _ _ hs ht) hi
  | call op next => exact fun t ht hi => h t (trans _ _ _ hs ht) hi

theorem SafeIf.weaken {post' : Except ε α → σ → Prop} {p : Prog Op Ans ε α} {s : σ}
    (h : p.SafeIf exec allowed rely inv post s) (hpost : ∀ r s, inv s → post r s → post' r s) :
    p.SafeIf exec allowed rely inv post' s := by
  induction p generalizing s with
  | ret r => exact fun s' hs hi => hpost r s' hi (h s' hs hi)
  | call op next ih =>
      intro s' hs hi hallowed
      obtain ⟨hi', hnext⟩ := h s' hs hi hallowed
      exact ⟨hi', ih _ hnext⟩

theorem SafeIf.bind (refl : ∀ s, rely s s) {mid : Except ε α → σ → Prop} {post : Except ε β → σ → Prop}
    {p : Prog Op Ans ε α} {f : α → Prog Op Ans ε β} {s : σ} (hp : p.SafeIf exec allowed rely inv mid s)
    (hok : ∀ a s, inv s → mid (.ok a) s → (f a).SafeIf exec allowed rely inv post s)
    (herr : ∀ e s, inv s → mid (.error e) s → post (.error e) s) :
    (p >>= f).SafeIf exec allowed rely inv post s := by
  change (p.bind f).SafeIf exec allowed rely inv post s
  induction p generalizing s with
  | ret r =>
      cases r with
      | error e => exact fun s' hs hi => herr e s' hi (hp s' hs hi)
      | ok a =>
          rw [Prog.bind]
          cases hfa : f a with
          | ret r => exact fun s' hs hi => (hfa ▸ hok a s' hi (hp s' hs hi) : (ret r).SafeIf ..) s' (refl s') hi
          | call op next =>
              intro s' hs hi hallowed
              exact (hfa ▸ hok a s' hi (hp s' hs hi) : (call op next).SafeIf ..) s' (refl s') hi hallowed
  | call op next ih =>
      intro s' hs hi hallowed
      obtain ⟨hi', hnext⟩ := hp s' hs hi hallowed
      exact ⟨hi', ih _ hnext⟩

theorem safeIf_ret {r : Except ε α} {s : σ} (h : ∀ s', rely s s' → inv s' → post r s') :
    (ret r : Prog Op Ans ε α).SafeIf exec allowed rely inv post s := h

theorem safeIf_perform {op : Op} {post : Except ε (Ans op) → σ → Prop} {s : σ}
    (h : ∀ s', rely s s' → inv s' → allowed op s' → inv (exec op s').1 ∧
      ∀ t, rely (exec op s').1 t → inv t → post (.ok (exec op s').2) t) :
    (perform op : Prog Op Ans ε (Ans op)).SafeIf exec allowed rely inv post s := h

/-- A program on a part of the state, as a program on the whole: the frame is what is kept of the rest. -/
theorem SafeIf.embed {Op' σ' ε' : Type} {Ans' : Op' → Type} {inject : Op → Op'} {answer : ∀ op, Ans' (inject op) → Ans op}
    {exec' : (op : Op') → σ' → σ' × Ans' op} {allowed' : Op' → σ' → Prop} {rely' : σ' → σ' → Prop} {inv' : σ' → Prop}
    {part : σ' → σ} {frame : σ' → Prop}
    (hexec : ∀ op s, exec op (part s) = (part (exec' (inject op) s).1, answer op (exec' (inject op) s).2))
    (hkeeps : ∀ op s, frame s → inv' s → frame (exec' (inject op) s).1 ∧ inv' (exec' (inject op) s).1)
    (hrely : ∀ s t, rely' s t → rely (part s) (part t)) (hframe : ∀ s t, rely' s t → frame s → frame t)
    (hallowed : ∀ op s, allowed' (inject op) s → allowed op (part s)) (hinv : ∀ s, inv' s → inv (part s))
    {p : Prog Op Ans ε α} {s : σ'} (hs : frame s) (h : p.SafeIf exec allowed rely inv post (part s)) :
    (p.embed inject answer : Prog Op' Ans' ε' (Except ε α)).SafeIf exec' allowed' rely' inv'
      (fun r t => frame t ∧ ∃ r', r = .ok r' ∧ post r' (part t)) s := by
  induction p generalizing s with
  | ret r => exact fun t ht hi => ⟨hframe _ _ ht hs, r, rfl, h _ (hrely _ _ ht) (hinv _ hi)⟩
  | call op next ih =>
      intro t ht hi hop
      obtain ⟨-, hnext⟩ := h _ (hrely _ _ ht) (hinv _ hi) (hallowed op t hop)
      obtain ⟨hframe', hi'⟩ := hkeeps op t (hframe _ _ ht hs) hi
      rw [hexec] at hnext
      exact ⟨hi', ih _ hframe' hnext⟩

/-! ## Triples -/

/-- What is asked of a result: of a value, and of an error. -/
def Meets (ok : α → σ → Prop) (err : ε → σ → Prop) : Except ε α → σ → Prop
  | .ok a, s => ok a s
  | .error e, s => err e s

variable (exec allowed rely inv) in
/-- From every state that meets the precondition, the program is safe and its result is as asked. -/
structure Triple (pre : σ → Prop) (p : Prog Op Ans ε α) (ok : α → σ → Prop) (err : ε → σ → Prop) : Prop where
  safe : ∀ s, inv s → pre s → p.SafeIf exec allowed rely inv (Meets ok err) s

/-- An assertion that the steps of others do not falsify. -/
def Stable (rely : σ → σ → Prop) (P : σ → Prop) : Prop := ∀ s t, rely s t → P s → P t

theorem Stable.meets {ok : α → σ → Prop} {err : ε → σ → Prop} (hok : ∀ a, Stable rely (ok a))
    (herr : ∀ e, Stable rely (err e)) (r : Except ε α) : Stable rely (Meets ok err r) := by
  cases r with
  | ok a => exact hok a
  | error e => exact herr e

namespace Triple

variable {pre pre' : σ → Prop} {p : Prog Op Ans ε α} {ok ok' : α → σ → Prop} {err err' : ε → σ → Prop}

theorem weaken (h : Triple exec allowed rely inv pre p ok err) (hpre : ∀ s, pre' s → pre s)
    (hok : ∀ a s, ok a s → ok' a s) (herr : ∀ e s, err e s → err' e s) :
    Triple exec allowed rely inv pre' p ok' err' := by
  refine ⟨fun s hi hs => (h.safe s hi (hpre s hs)).weaken fun r t _ hpost => ?_⟩
  cases r with
  | ok a => exact hok a t hpost
  | error e => exact herr e t hpost

theorem bind (refl : ∀ s, rely s s) {mid : β → σ → Prop} {q : Prog Op Ans ε β} {f : β → Prog Op Ans ε α}
    (hq : Triple exec allowed rely inv pre q mid err) (hf : ∀ b, Triple exec allowed rely inv (mid b) (f b) ok err) :
    Triple exec allowed rely inv pre (q >>= f) ok err :=
  ⟨fun s hi hs => (hq.safe s hi hs).bind refl (fun b t hi ht => (hf b).safe t hi ht) fun _ _ _ he => he⟩

theorem pure {a : α} (hpre : Stable rely pre) (h : ∀ s, pre s → ok a s) :
    Triple exec allowed rely inv pre (Pure.pure a) ok err :=
  ⟨fun s _ hs => safeIf_ret fun t ht _ => h t (hpre s t ht hs)⟩

theorem fail {e : ε} (hpre : Stable rely pre) (h : ∀ s, pre s → err e s) :
    Triple exec allowed rely inv pre (Prog.fail e) ok err :=
  ⟨fun s _ hs => safeIf_ret fun t ht _ => h t (hpre s t ht hs)⟩

theorem perform {op : Op} {ok : Ans op → σ → Prop} (hpre : Stable rely pre) (hok : ∀ answer, Stable rely (ok answer))
    (h : ∀ s, inv s → pre s → allowed op s → inv (exec op s).1 ∧ ok (exec op s).2 (exec op s).1) :
    Triple exec allowed rely inv pre (Prog.perform op) ok err := by
  refine ⟨fun s _ hs => safeIf_perform fun t ht hi hop => ?_⟩
  obtain ⟨hi', hpost⟩ := h t hi (hpre s t ht hs) hop
  exact ⟨hi', fun u hu _ => hok _ _ _ hu hpost⟩

/-- An attempt has the result as its value. -/
theorem attempt {ε' : Type} {err' : ε' → σ → Prop} (h : Triple exec allowed rely inv pre p ok err) :
    Triple exec allowed rely inv pre (p.attempt : Prog Op Ans ε' (Except ε α)) (fun r => Meets ok err r) err' := by
  refine ⟨fun s hi hs => ?_⟩
  have hsafe := h.safe s hi hs
  clear hi hs h
  induction p generalizing s with
  | ret r => exact hsafe
  | call op next ih =>
      intro t ht hi hop
      obtain ⟨hi', hnext⟩ := hsafe t ht hi hop
      exact ⟨hi', ih _ _ hnext⟩

theorem of_and {fact : Prop} (h : fact → Triple exec allowed rely inv pre p ok err) :
    Triple exec allowed rely inv (fun s => fact ∧ pre s) p ok err :=
  ⟨fun s hi hs => (h hs.1).safe s hi hs.2⟩

theorem of_exists {γ : Type} {pre : γ → σ → Prop} (h : ∀ c, Triple exec allowed rely inv (pre c) p ok err) :
    Triple exec allowed rely inv (fun s => ∃ c, pre c s) p ok err := by
  refine ⟨fun s hi hpre => ?_⟩
  obtain ⟨c, hs⟩ := hpre
  exact (h c).safe s hi hs

end Triple

/-! ## Outcomes -/

/-- The program runs from one state to another and ends in the result, while others change the state. -/
inductive Outcome (exec : (op : Op) → σ → σ × Ans op) (allowed : Op → σ → Prop) (outside : σ → σ → Prop) :
    Prog Op Ans ε α → σ → Except ε α → σ → Prop
  | ret (r : Except ε α) (s : σ) : Outcome exec allowed outside (ret r) s r s
  | call {op : Op} {next : Ans op → Prog Op Ans ε α} {s s' : σ} {r : Except ε α} (h : allowed op s)
      (hnext : Outcome exec allowed outside (next (exec op s).2) (exec op s).1 r s') :
      Outcome exec allowed outside (call op next) s r s'
  | other {p : Prog Op Ans ε α} {s t s' : σ} {r : Except ε α} (h : outside s t)
      (hrest : Outcome exec allowed outside p t r s') : Outcome exec allowed outside p s r s'

/-- A safe program meets its postcondition. -/
theorem SafeIf.outcome {outside : σ → σ → Prop} (refl : ∀ s, rely s s)
    (trans : ∀ a b c, rely a b → rely b c → rely a c)
    (houtside : ∀ s s', outside s s' → inv s → inv s' ∧ rely s s') {p : Prog Op Ans ε α} {s s' : σ} {r : Except ε α}
    (hp : p.SafeIf exec allowed rely inv post s) (hi : inv s) (h : Outcome exec allowed outside p s r s') :
    inv s' ∧ post r s' := by
  induction h with
  | ret r s => exact ⟨hi, hp s (refl s) hi⟩
  | call hallowed _ ih =>
      obtain ⟨hi', hnext⟩ := hp _ (refl _) hi hallowed
      exact ih hnext hi'
  | other h _ ih =>
      obtain ⟨hi', hrely⟩ := houtside _ _ h hi
      exact ih (hp.mono trans hrely) hi'

end Prog

/-! ## Monitors -/

/-- A shared state and the program that holds its lock. -/
structure Monitor (Op : Type) (Ans : Op → Type) (ε σ : Type) where
  state : σ
  inside : Option (Prog Op Ans ε Unit)

namespace Monitor

variable (exec : (op : Op) → σ → σ × Ans op) (enterable : Prog Op Ans ε Unit → Prop) (outside : σ → σ → Prop)
  (allowed : Op → σ → Prop)

inductive Step : Monitor Op Ans ε σ → Monitor Op Ans ε σ → Prop
  | enter {s : σ} (p : Prog Op Ans ε Unit) (h : enterable p) : Step ⟨s, none⟩ ⟨s, some p⟩
  | work {s : σ} (op : Op) (next : Ans op → Prog Op Ans ε Unit) (h : allowed op s) :
      Step ⟨s, some (.call op next)⟩ ⟨(exec op s).1, some (next (exec op s).2)⟩
  | leave {s : σ} (r : Except ε Unit) : Step ⟨s, some (.ret r)⟩ ⟨s, none⟩
  | background {s s' : σ} (inside : Option (Prog Op Ans ε Unit)) (h : outside s s') : Step ⟨s, inside⟩ ⟨s', inside⟩

/-- All operations of a run without interference meet the condition. -/
def AllowedRun {α : Type} : Prog Op Ans ε α → σ → Prop
  | .ret _, _ => True
  | .call op next, s => allowed op s ∧ AllowedRun (next (exec op s).2) (exec op s).1

variable {exec enterable outside allowed}

instance AllowedRun.decidable [∀ op s, Decidable (allowed op s)] {α : Type} :
    (p : Prog Op Ans ε α) → (s : σ) → Decidable (AllowedRun exec allowed p s)
  | .ret _, _ => isTrue trivial
  | .call op next, s =>
      have := AllowedRun.decidable (next (exec op s).2) (exec op s).1
      inferInstanceAs (Decidable (_ ∧ _))

/-- A run without interference is one of the outcomes. -/
theorem outcome_run {α : Type} {p : Prog Op Ans ε α} {s : σ} (h : AllowedRun exec allowed p s) :
    p.Outcome exec allowed outside s (p.run exec s).2 (p.run exec s).1 := by
  induction p generalizing s with
  | ret r => exact .ret r s
  | call op next ih => exact .call h.1 (ih _ h.2)

/-- A program enters, runs without interference and leaves. -/
theorem reaches_run {p : Prog Op Ans ε Unit} {s : σ} (h : enterable p) (hallowed : AllowedRun exec allowed p s) :
    Relation.ReflTransGen (Step exec enterable outside allowed) ⟨s, none⟩ ⟨(p.run exec s).1, none⟩ := by
  suffices hinside : ∀ (p : Prog Op Ans ε Unit) (s : σ), AllowedRun exec allowed p s →
      Relation.ReflTransGen (Step exec enterable outside allowed) ⟨s, some p⟩ ⟨(p.run exec s).1, none⟩ from
    .head (.enter p h) (hinside p s hallowed)
  intro p
  induction p with
  | ret r => exact fun s _ => .single (.leave r)
  | call op next ih => exact fun s h => .head (.work op next h.1) (ih _ _ h.2)

variable {rely : σ → σ → Prop} {inv atRest : σ → Prop}

/-- **The invariant of a monitor.** What the programs and the background keep holds in every state, and what every
program establishes when it leaves holds whenever the lock is free. -/
theorem reachable (refl : ∀ s, rely s s) (trans : ∀ a b c, rely a b → rely b c → rely a c)
    (houtside : ∀ s s', outside s s' → inv s → inv s' ∧ rely s s')
    (hrest : ∀ s s', rely s s' → inv s' → atRest s → atRest s')
    (hprogram : ∀ p, enterable p → ∀ s, inv s → atRest s →
      p.SafeIf exec allowed rely inv (fun _ => atRest) s)
    {s : σ} (hi : inv s) (hr : atRest s) {m : Monitor Op Ans ε σ}
    (hrun : Relation.ReflTransGen (Step exec enterable outside allowed) ⟨s, none⟩ m) :
    inv m.state ∧ match m.inside with
      | none => atRest m.state
      | some p => p.SafeIf exec allowed rely inv (fun _ => atRest) m.state := by
  induction hrun with
  | refl => exact ⟨hi, hr⟩
  | tail _ hstep ih =>
      cases hstep with
      | enter p h => exact ⟨ih.1, hprogram p h _ ih.1 ih.2⟩
      | work op next h => exact ih.2 _ (refl _) ih.1 h
      | leave r => exact ⟨ih.1, ih.2 _ (refl _) ih.1⟩
      | background inside h =>
          obtain ⟨hinv, hrely⟩ := houtside _ _ h ih.1
          refine ⟨hinv, ?_⟩
          cases inside with
          | none => exact hrest _ _ hrely hinv ih.2
          | some p => exact ih.2.mono trans hrely

end Monitor

end HyperTerm.Lib
