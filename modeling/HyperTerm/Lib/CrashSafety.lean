import HyperTerm.Lib.Monitor

/-!
# Programs that may stop anywhere

`Prog.CrashSafe` is the proof rule for a program that runs alone and may be cut off between any two operations: an
invariant holds in every state such a cut can leave, and what the program ends in meets a postcondition.

* `CrashSafe.bind`, `CrashSafe.attempt`, `CrashSafe.mono` : how the rule composes;
* `CrashSafe.run`, `CrashSafe.crash` : what a run ends in, and what a crash leaves;
* `CrashTriple` : a program is crash safe from every state of a precondition.
-/

namespace HyperTerm.Lib.Prog

variable {Op : Type} {Ans : Op → Type} {ε ε' α β σ : Type}

variable (exec : (op : Op) → σ → σ × Ans op)

/-- The invariant holds before each operation and at the end, where the postcondition holds as well. -/
def CrashSafe (inv : σ → Prop) (post : Except ε α → σ → Prop) : Prog Op Ans ε α → σ → Prop
  | ret r, s => inv s ∧ post r s
  | call op next, s => inv s ∧ (next (exec op s).2).CrashSafe inv post (exec op s).1

variable {exec} {inv inv' : σ → Prop} {post post' : Except ε α → σ → Prop}

theorem CrashSafe.now {p : Prog Op Ans ε α} {s : σ} (h : p.CrashSafe exec inv post s) : inv s := by
  cases p <;> exact h.1

theorem CrashSafe.mono {p : Prog Op Ans ε α} {s : σ} (h : p.CrashSafe exec inv post s)
    (hinv : ∀ t, inv t → inv' t) (hpost : ∀ r t, inv t → post r t → post' r t) :
    p.CrashSafe exec inv' post' s := by
  induction p generalizing s with
  | ret r => exact ⟨hinv s h.1, hpost r s h.1 h.2⟩
  | call op next ih => exact ⟨hinv s h.1, ih _ h.2⟩

theorem CrashSafe.bind {mid : Except ε α → σ → Prop} {post : Except ε β → σ → Prop} {p : Prog Op Ans ε α}
    {f : α → Prog Op Ans ε β} {s : σ} (hp : p.CrashSafe exec inv mid s)
    (hok : ∀ a t, inv t → mid (.ok a) t → (f a).CrashSafe exec inv post t)
    (herr : ∀ e t, inv t → mid (.error e) t → post (.error e) t) : (p >>= f).CrashSafe exec inv post s := by
  change (p.bind f).CrashSafe exec inv post s
  induction p generalizing s with
  | ret r =>
      cases r with
      | ok a => exact hok a s hp.1 hp.2
      | error e => exact ⟨hp.1, herr e s hp.1 hp.2⟩
  | call op next ih => exact ⟨hp.1, ih _ hp.2⟩

theorem CrashSafe.attempt {post : Except ε' (Except ε α) → σ → Prop} {p : Prog Op Ans ε α} {s : σ}
    (h : p.CrashSafe exec inv (fun r => post (.ok r)) s) :
    (p.attempt : Prog Op Ans ε' (Except ε α)).CrashSafe exec inv post s := by
  induction p generalizing s with
  | ret r => exact h
  | call op next ih => exact ⟨h.1, ih _ h.2⟩

/-- What the run of the program ends in. -/
theorem CrashSafe.run {p : Prog Op Ans ε α} {s : σ} (h : p.CrashSafe exec inv post s) :
    inv (p.run exec s).1 ∧ post (p.run exec s).2 (p.run exec s).1 := by
  induction p generalizing s with
  | ret r => exact h
  | call op next ih => exact ih _ h.2

/-- What a crash of the program leaves. -/
theorem CrashSafe.crash {p : Prog Op Ans ε α} {s t : σ} (h : p.CrashSafe exec inv post s)
    (ht : p.CrashesAt exec s t) : inv t := by
  induction p generalizing s with
  | ret r => exact ht ▸ h.1
  | call op next ih =>
      rcases ht with rfl | ht
      · exact h.1
      · exact ih _ h.2 ht

/-! ## Crash triples -/

variable (exec) in
/-- From every state of the precondition the program is crash safe. -/
def CrashTriple (inv pre : σ → Prop) (p : Prog Op Ans ε α) (post : Except ε α → σ → Prop) : Prop :=
  ∀ s, pre s → p.CrashSafe exec inv post s

variable {pre pre' : σ → Prop}

theorem CrashTriple.consequence {p : Prog Op Ans ε α} (h : CrashTriple exec inv pre p post) (hpre : ∀ s, pre' s → pre s)
    (hpost : ∀ r s, inv s → post r s → post' r s) : CrashTriple exec inv pre' p post' :=
  fun s hs => (h s (hpre s hs)).mono (fun _ hi => hi) hpost

theorem crashTriple_ret {r : Except ε α} (hinv : ∀ s, pre s → inv s) (h : ∀ s, pre s → post r s) :
    CrashTriple exec inv pre (ret r) post := fun s hs => ⟨hinv s hs, h s hs⟩

theorem CrashTriple.bind {mid : Except ε α → σ → Prop} {post : Except ε β → σ → Prop} {p : Prog Op Ans ε α}
    {f : α → Prog Op Ans ε β} (hp : CrashTriple exec inv pre p mid)
    (hf : ∀ a, CrashTriple exec inv (fun s => inv s ∧ mid (.ok a) s) (f a) post)
    (herr : ∀ e s, inv s → mid (.error e) s → post (.error e) s) : CrashTriple exec inv pre (p >>= f) post :=
  fun s hs => (hp s hs).bind (fun a t hi hmid => hf a t ⟨hi, hmid⟩) herr

theorem CrashTriple.attempt {post : Except ε' (Except ε α) → σ → Prop} {p : Prog Op Ans ε α}
    (h : CrashTriple exec inv pre p fun r => post (.ok r)) :
    CrashTriple exec inv pre (p.attempt : Prog Op Ans ε' (Except ε α)) post := fun s hs => (h s hs).attempt

end HyperTerm.Lib.Prog
