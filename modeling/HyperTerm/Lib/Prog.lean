import Mathlib.Data.List.Induction
import Mathlib.Logic.Relation

/-!
# Programs of atomic operations

`Prog Op Ans ε α` is a program that performs operations of `Op`, each answered by a value of `Ans op`, and
ends in an error or a value. One interpretation of the operations on a state gives

* `Prog.run` : the run without interference;
* `Prog.CrashesAt` : the states in which a crash can leave such a run, between any two operations;
* `Pool` : any number of programs that run interleaved.

`Safe` is the one proof rule for all three. It says that every operation of a program keeps an invariant and
a guarantee and that its result meets a postcondition, in spite of steps of others within a rely.
-/

namespace HyperTerm.Lib

/-- A program: a result, or an operation and what to do with its answer. -/
inductive Prog (Op : Type) (Ans : Op → Type) (ε α : Type) : Type
  | ret (result : Except ε α)
  | call (op : Op) (next : Ans op → Prog Op Ans ε α)

namespace Prog

variable {Op : Type} {Ans : Op → Type} {ε ε' α β σ : Type}

def bind : Prog Op Ans ε α → (α → Prog Op Ans ε β) → Prog Op Ans ε β
  | ret (.ok a), f => f a
  | ret (.error e), _ => ret (.error e)
  | call op next, f => call op fun answer => (next answer).bind f

instance : Monad (Prog Op Ans ε) where
  pure a := ret (.ok a)
  bind := bind

def fail (e : ε) : Prog Op Ans ε α := ret (.error e)

def perform (op : Op) : Prog Op Ans ε (Ans op) := call op fun answer => ret (.ok answer)

/-- The result of a program as a value, errors included. -/
def attempt : Prog Op Ans ε α → Prog Op Ans ε' (Except ε α)
  | ret r => ret (.ok r)
  | call op next => call op fun answer => (next answer).attempt

/-! ## Runs and crashes -/

variable (exec : (op : Op) → σ → σ × Ans op)

def run : Prog Op Ans ε α → σ → σ × Except ε α
  | ret r, s => (s, r)
  | call op next, s => (next (exec op s).2).run (exec op s).1

/-- A crash during a run from `s` can leave the state `t`. -/
def CrashesAt : Prog Op Ans ε α → σ → σ → Prop
  | ret _, s, t => t = s
  | call op next, s, t => t = s ∨ (next (exec op s).2).CrashesAt (exec op s).1 t

@[simp] theorem run_ret (r : Except ε α) (s : σ) : (ret r : Prog Op Ans ε α).run exec s = (s, r) := rfl

@[simp] theorem run_call (op : Op) (next : Ans op → Prog Op Ans ε α) (s : σ) :
    (call op next).run exec s = (next (exec op s).2).run exec (exec op s).1 := rfl

theorem run_bind (p : Prog Op Ans ε α) (f : α → Prog Op Ans ε β) (s : σ) :
    (p >>= f).run exec s =
      match p.run exec s with
      | (t, .ok a) => (f a).run exec t
      | (t, .error e) => (t, .error e) := by
  change (p.bind f).run exec s = _
  induction p generalizing s with
  | ret r => cases r <;> rfl
  | call op next ih => exact ih (exec op s).2 (exec op s).1

theorem crashesAt_run (p : Prog Op Ans ε α) (s : σ) : p.CrashesAt exec s (p.run exec s).1 := by
  induction p generalizing s with
  | ret r => rfl
  | call op next ih => exact Or.inr (ih (exec op s).2 (exec op s).1)

/-! ## Safety -/

/-- Every operation of the program, from any state the rely can lead to, keeps the invariant and is within the
guarantee, and the result meets the postcondition. -/
def Safe (rely guarantee : σ → σ → Prop) (inv : σ → Prop) (post : Except ε α → σ → Prop) :
    Prog Op Ans ε α → σ → Prop
  | ret r, s => ∀ s', rely s s' → inv s' → post r s'
  | call op next, s => ∀ s', rely s s' → inv s' →
      inv (exec op s').1 ∧ guarantee s' (exec op s').1 ∧
        (next (exec op s').2).Safe rely guarantee inv post (exec op s').1

variable {exec} {rely guarantee : σ → σ → Prop} {inv : σ → Prop} {post : Except ε α → σ → Prop}

/-- Safety is not lost when others take steps within the rely. -/
theorem Safe.mono (trans : ∀ a b c, rely a b → rely b c → rely a c) {p : Prog Op Ans ε α} {s s' : σ}
    (h : p.Safe exec rely guarantee inv post s) (hs : rely s s') : p.Safe exec rely guarantee inv post s' := by
  cases p with
  | ret r => exact fun t ht hi => h t (trans _ _ _ hs ht) hi
  | call op next => exact fun t ht hi => h t (trans _ _ _ hs ht) hi

theorem Safe.weaken {post' : Except ε α → σ → Prop} {p : Prog Op Ans ε α} {s : σ}
    (h : p.Safe exec rely guarantee inv post s) (hpost : ∀ r s, inv s → post r s → post' r s) :
    p.Safe exec rely guarantee inv post' s := by
  induction p generalizing s with
  | ret r => exact fun s' hs hi => hpost r s' hi (h s' hs hi)
  | call op next ih =>
      intro s' hs hi
      obtain ⟨hi', hg, hnext⟩ := h s' hs hi
      exact ⟨hi', hg, ih _ hnext⟩

/-- What a safe program ends in is within the rely of where it started, if its own steps are. -/
theorem Safe.frame (trans : ∀ a b c, rely a b → rely b c → rely a c) (hsub : ∀ a b, guarantee a b → rely a b)
    {p : Prog Op Ans ε α} {s₀ s : σ} (hs : rely s₀ s) (h : p.Safe exec rely guarantee inv post s) :
    p.Safe exec rely guarantee inv (fun r t => rely s₀ t ∧ post r t) s := by
  induction p generalizing s with
  | ret r => exact fun s' hs' hi => ⟨trans _ _ _ hs hs', h s' hs' hi⟩
  | call op next ih =>
      intro s' hs' hi
      obtain ⟨hi', hg, hnext⟩ := h s' hs' hi
      exact ⟨hi', hg, ih _ (trans _ _ _ (trans _ _ _ hs hs') (hsub _ _ hg)) hnext⟩

/-- A program is safe if its first part is and, from what that part ends in, the rest is. -/
theorem Safe.bind (refl : ∀ s, rely s s) {mid : Except ε α → σ → Prop} {post : Except ε β → σ → Prop}
    {p : Prog Op Ans ε α} {f : α → Prog Op Ans ε β} {s : σ} (hp : p.Safe exec rely guarantee inv mid s)
    (hok : ∀ a s, inv s → mid (.ok a) s → (f a).Safe exec rely guarantee inv post s)
    (herr : ∀ e s, inv s → mid (.error e) s → post (.error e) s) :
    (p >>= f).Safe exec rely guarantee inv post s := by
  change (p.bind f).Safe exec rely guarantee inv post s
  induction p generalizing s with
  | ret r =>
      cases r with
      | error e => exact fun s' hs hi => herr e s' hi (hp s' hs hi)
      | ok a =>
          rw [Prog.bind]
          cases hfa : f a with
          | ret r => exact fun s' hs hi => (hfa ▸ hok a s' hi (hp s' hs hi) : (ret r).Safe ..) s' (refl s') hi
          | call op next =>
              intro s' hs hi
              exact (hfa ▸ hok a s' hi (hp s' hs hi) : (call op next).Safe ..) s' (refl s') hi
  | call op next ih =>
      intro s' hs hi
      obtain ⟨hi', hg, hnext⟩ := hp s' hs hi
      exact ⟨hi', hg, ih _ hnext⟩

theorem Safe.attempt {post : Except ε' (Except ε α) → σ → Prop} {p : Prog Op Ans ε α} {s : σ}
    (h : p.Safe exec rely guarantee inv (fun r => post (.ok r)) s) :
    (p.attempt : Prog Op Ans ε' (Except ε α)).Safe exec rely guarantee inv post s := by
  induction p generalizing s with
  | ret r => exact h
  | call op next ih =>
      intro s' hs hi
      obtain ⟨hi', hg, hnext⟩ := h s' hs hi
      exact ⟨hi', hg, ih _ hnext⟩

theorem safe_ret {r : Except ε α} {s : σ} (h : ∀ s', rely s s' → inv s' → post r s') :
    (ret r : Prog Op Ans ε α).Safe exec rely guarantee inv post s := h

theorem safe_perform {op : Op} {post : Except ε (Ans op) → σ → Prop} {s : σ}
    (h : ∀ s', rely s s' → inv s' → inv (exec op s').1 ∧ guarantee s' (exec op s').1 ∧
      ∀ t, rely (exec op s').1 t → inv t → post (.ok (exec op s').2) t) :
    (perform op : Prog Op Ans ε (Ans op)).Safe exec rely guarantee inv post s := h

/-- Without interference, a safe program ends in its postcondition and every crash leaves the invariant. -/
theorem Safe.run_and_crash {p : Prog Op Ans ε α} {s : σ} (hi : inv s)
    (h : p.Safe exec Eq guarantee inv post s) :
    (inv (p.run exec s).1 ∧ post (p.run exec s).2 (p.run exec s).1) ∧ ∀ t, p.CrashesAt exec s t → inv t := by
  induction p generalizing s with
  | ret r =>
      refine ⟨⟨hi, h s rfl hi⟩, ?_⟩
      rintro t rfl
      exact hi
  | call op next ih =>
      obtain ⟨hi', -, hnext⟩ := h s rfl hi
      obtain ⟨hrun, hcrash⟩ := ih _ hi' hnext
      refine ⟨hrun, ?_⟩
      rintro t (rfl | ht)
      · exact hi
      · exact hcrash t ht

end Prog

/-! ## Interleaved programs -/

/-- A shared state and the programs that run on it. -/
structure Pool (Op : Type) (Ans : Op → Type) (ε σ : Type) where
  state : σ
  threads : List (Prog Op Ans ε Unit)

namespace Pool

variable {Op : Type} {Ans : Op → Type} {ε σ : Type} (exec : (op : Op) → σ → σ × Ans op)

/-- The operation that a thread performs next. -/
def nextOp (pool : Pool Op Ans ε σ) (thread : Nat) : Option Op :=
  match pool.threads[thread]? with
  | some (.call op _) => some op
  | _ => none

/-- One operation of one thread. -/
def advance (pool : Pool Op Ans ε σ) (thread : Nat) : Option (Pool Op Ans ε σ) :=
  match pool.threads[thread]? with
  | some (.call op next) => some ⟨(exec op pool.state).1, pool.threads.set thread (next (exec op pool.state).2)⟩
  | _ => none

/-- A new thread, or one operation of a thread. -/
inductive Step (spawnable : Prog Op Ans ε Unit → Prop) : Pool Op Ans ε σ → Pool Op Ans ε σ → Prop
  | spawn {pool : Pool Op Ans ε σ} (p : Prog Op Ans ε Unit) (h : spawnable p) :
      Step spawnable pool { pool with threads := pool.threads ++ [p] }
  | advance {pool pool' : Pool Op Ans ε σ} (thread : Nat) (h : pool.advance exec thread = some pool') :
      Step spawnable pool pool'

variable {exec} {rely : σ → σ → Prop} {inv : σ → Prop} {spawnable : Prog Op Ans ε Unit → Prop}

/-- Threads that are safe against each other's guarantee keep the invariant together. -/
theorem Step.safe (trans : ∀ a b c, rely a b → rely b c → rely a c) (refl : ∀ s, rely s s)
    (hspawn : ∀ p, spawnable p → ∀ s, inv s → p.Safe exec rely rely inv (fun _ _ => True) s)
    {pool pool' : Pool Op Ans ε σ} (hstep : Step exec spawnable pool pool') (hi : inv pool.state)
    (hs : ∀ p ∈ pool.threads, p.Safe exec rely rely inv (fun _ _ => True) pool.state) :
    inv pool'.state ∧ rely pool.state pool'.state ∧
      ∀ p ∈ pool'.threads, p.Safe exec rely rely inv (fun _ _ => True) pool'.state := by
  cases hstep with
  | spawn p h =>
      refine ⟨hi, refl _, fun q hq => ?_⟩
      rcases List.mem_append.mp hq with hq | hq
      · exact hs q hq
      · exact List.mem_singleton.mp hq ▸ hspawn p h _ hi
  | advance thread h =>
      unfold Pool.advance at h
      split at h
      case h_1 op next hget =>
        obtain rfl := Option.some.inj h
        obtain ⟨hi', hrely, hnext⟩ := hs _ (List.mem_of_getElem? hget) _ (refl _) hi
        refine ⟨hi', hrely, fun q hq => ?_⟩
        rcases List.mem_or_eq_of_mem_set hq with hq | rfl
        · exact (hs q hq).mono trans hrely
        · exact hnext
      case h_2 => exact nomatch h

/-- What every operation preserves, every step does. -/
theorem Step.state {P : σ → Prop} (h : ∀ op s, P s → P (exec op s).1) {pool pool' : Pool Op Ans ε σ}
    (hstep : Step exec spawnable pool pool') (hp : P pool.state) : P pool'.state := by
  cases hstep with
  | spawn => exact hp
  | advance thread hadvance =>
      unfold Pool.advance at hadvance
      split at hadvance
      · exact Option.some.inj hadvance ▸ h _ _ hp
      · exact nomatch hadvance

theorem reaches_spawned (s : σ) {threads : List (Prog Op Ans ε Unit)} (h : ∀ p ∈ threads, spawnable p) :
    Relation.ReflTransGen (Step exec spawnable) ⟨s, []⟩ ⟨s, threads⟩ := by
  induction threads using List.reverseRecOn with
  | nil => exact .refl
  | append_singleton threads p ih =>
      refine .tail (ih fun q hq => h q (List.mem_append_left _ hq)) (.spawn p (h p ?_))
      exact List.mem_append_right _ (List.mem_singleton_self p)

/-- **The invariant of a pool.** It holds in every state that any interleaving reaches. -/
theorem reachable_inv (trans : ∀ a b c, rely a b → rely b c → rely a c) (refl : ∀ s, rely s s)
    (hspawn : ∀ p, spawnable p → ∀ s, inv s → p.Safe exec rely rely inv (fun _ _ => True) s)
    {s : σ} (hi : inv s) {pool : Pool Op Ans ε σ}
    (hrun : Relation.ReflTransGen (Step exec spawnable) ⟨s, []⟩ pool) :
    inv pool.state ∧ rely s pool.state ∧
      ∀ p ∈ pool.threads, p.Safe exec rely rely inv (fun _ _ => True) pool.state := by
  induction hrun with
  | refl => exact ⟨hi, refl s, fun p hp => absurd hp List.not_mem_nil⟩
  | tail _ hstep ih =>
      obtain ⟨hi', hrely, hsafe⟩ := hstep.safe trans refl hspawn ih.1 ih.2.2
      exact ⟨hi', trans _ _ _ ih.2.1 hrely, hsafe⟩

end Pool

end HyperTerm.Lib
