import HyperTerm.Lib.Prog
import Mathlib.Algebra.BigOperators.Group.List.Basic

/-!
# Threads that hold tokens

Threads are programs on one state that come and go. What a thread may do now often depends on what it has done before:
it was the one that took an entry, won a decision, holds a lock. Tokens say so: every thread holds some, elements of a
commutative monoid, and the invariant relates the state to the sum of what all threads hold.

* `Prog.Holds` : a program that holds a token keeps the invariant with every operation, whatever the others hold and do,
  exchanging its token as it goes;
* `Threads.Step` : a thread starts, performs an operation under a condition, or something else happens;
* `Threads.reachable` : if every thread starts with its token, the invariant holds in every run.
-/

namespace HyperTerm.Lib

variable {Op Op' : Type} {Ans : Op → Type} {Ans' : Op' → Type} {ε ε' α β σ M : Type} [AddCommMonoid M]

namespace Prog

variable (exec : (op : Op) → σ → σ × Ans op) (allowed : Op → σ → Prop) (inv : M → σ → Prop)

/-- The program holds `own` and others hold `rest`. Every operation that meets the condition exchanges `own` so that the
invariant holds, and the result meets the postcondition with what the program then holds. -/
def Holds (post : Except ε α → M → Prop) : Prog Op Ans ε α → M → Prop
  | ret r, own => post r own
  | call op next, own => ∀ s rest, inv (rest + own) s → allowed op s →
      ∃ own', inv (rest + own') (exec op s).1 ∧ (next (exec op s).2).Holds post own'

variable {exec allowed inv} {post : Except ε α → M → Prop} {own : M}

theorem Holds.weaken {post' : Except ε α → M → Prop} {p : Prog Op Ans ε α} (h : p.Holds exec allowed inv post own)
    (hpost : ∀ r own, post r own → post' r own) : p.Holds exec allowed inv post' own := by
  induction p generalizing own with
  | ret r => exact hpost r own h
  | call op next ih =>
      intro s rest hi hallowed
      obtain ⟨own', hi', hnext⟩ := h s rest hi hallowed
      exact ⟨own', hi', ih _ hnext⟩

theorem Holds.bind {Q : Except ε α → M → Prop} {post : Except ε β → M → Prop} {p : Prog Op Ans ε α}
    {f : α → Prog Op Ans ε β} (hp : p.Holds exec allowed inv Q own)
    (hok : ∀ a own, Q (.ok a) own → (f a).Holds exec allowed inv post own)
    (herr : ∀ e own, Q (.error e) own → post (.error e) own) : (p >>= f).Holds exec allowed inv post own := by
  change (p.bind f).Holds exec allowed inv post own
  induction p generalizing own with
  | ret r =>
      cases r with
      | ok a => exact hok a own hp
      | error e => exact herr e own hp
  | call op next ih =>
      intro s rest hi hallowed
      obtain ⟨own', hi', hnext⟩ := hp s rest hi hallowed
      exact ⟨own', hi', ih _ hnext⟩

/-- The first part of a program, with the rest of it as what must hold at its end. -/
theorem Holds.andThen {post : Except ε β → M → Prop} {p : Prog Op Ans ε α} {f : α → Prog Op Ans ε β}
    (hp : p.Holds exec allowed inv (fun r own => match r with
      | .ok a => (f a).Holds exec allowed inv post own
      | .error e => post (.error e) own) own) : (p >>= f).Holds exec allowed inv post own :=
  hp.bind (fun _ _ h => h) fun _ _ h => h

theorem Holds.attempt {post : Except ε' (Except ε α) → M → Prop} {p : Prog Op Ans ε α}
    (h : p.Holds exec allowed inv (fun r => post (.ok r)) own) :
    (p.attempt : Prog Op Ans ε' (Except ε α)).Holds exec allowed inv post own := by
  induction p generalizing own with
  | ret r => exact h
  | call op next ih =>
      intro s rest hi hallowed
      obtain ⟨own', hi', hnext⟩ := h s rest hi hallowed
      exact ⟨own', hi', ih _ hnext⟩

/-- The first operation of a program. -/
theorem holds_perform_bind {op : Op} {post : Except ε α → M → Prop} {f : Ans op → Prog Op Ans ε α}
    (h : ∀ s rest, inv (rest + own) s → allowed op s →
      ∃ own', inv (rest + own') (exec op s).1 ∧ (f (exec op s).2).Holds exec allowed inv post own') :
    (perform op >>= f).Holds exec allowed inv post own := h

theorem holds_ret {r : Except ε α} (h : post r own) : (ret r : Prog Op Ans ε α).Holds exec allowed inv post own := h

/-- One operation: from what the thread holds to what it then holds. -/
theorem holds_perform {op : Op} {post : Except ε (Ans op) → M → Prop}
    (h : ∀ s rest, inv (rest + own) s → allowed op s →
      ∃ own', inv (rest + own') (exec op s).1 ∧ post (.ok (exec op s).2) own') :
    (perform op : Prog Op Ans ε (Ans op)).Holds exec allowed inv post own := h

/-! ## Programs within programs -/

/-- The program as a part of one with more operations; its result is a value, errors included. -/
def embed (inject : Op → Op') (answer : ∀ op, Ans' (inject op) → Ans op) :
    Prog Op Ans ε α → Prog Op' Ans' ε' (Except ε α)
  | ret r => ret (.ok r)
  | call op next => call (inject op) fun a => (next (answer op a)).embed inject answer

variable {inject : Op → Op'} {answer : ∀ op, Ans' (inject op) → Ans op}

theorem Holds.embed {exec : (op : Op) → σ → σ × Ans op} {exec' : (op : Op') → σ → σ × Ans' op}
    {allowed : Op → σ → Prop} {allowed' : Op' → σ → Prop} {inv : M → σ → Prop} {own : M}
    {post : Except ε' (Except ε α) → M → Prop}
    (hexec : ∀ op s, exec op s = ((exec' (inject op) s).1, answer op (exec' (inject op) s).2))
    (hallowed : ∀ op s, allowed' (inject op) s → allowed op s) {p : Prog Op Ans ε α}
    (h : p.Holds exec allowed inv (fun r => post (.ok r)) own) :
    (p.embed inject answer).Holds exec' allowed' inv post own := by
  induction p generalizing own with
  | ret r => exact h
  | call op next ih =>
      intro s rest hi hop
      obtain ⟨own', hi', hnext⟩ := h s rest hi (hallowed op s hop)
      rw [hexec] at hi' hnext
      exact ⟨own', hi', ih _ hnext⟩

end Prog

/-! ## Threads -/

namespace Threads

variable (exec : (op : Op) → σ → σ × Ans op) (starts : σ → Prog Op Ans ε Unit → σ → Prop) (outside : σ → σ → Prop)
  (allowed : Op → σ → Prop)

inductive Step : Pool Op Ans ε σ → Pool Op Ans ε σ → Prop
  | start {s s' : σ} {threads : List (Prog Op Ans ε Unit)} (p : Prog Op Ans ε Unit) (h : starts s p s') :
      Step ⟨s, threads⟩ ⟨s', threads ++ [p]⟩
  | work {s : σ} (before after : List (Prog Op Ans ε Unit)) (op : Op) (next : Ans op → Prog Op Ans ε Unit)
      (h : allowed op s) :
      Step ⟨s, before ++ .call op next :: after⟩ ⟨(exec op s).1, before ++ next (exec op s).2 :: after⟩
  | background {s s' : σ} (threads : List (Prog Op Ans ε Unit)) (h : outside s s') : Step ⟨s, threads⟩ ⟨s', threads⟩

variable {exec starts outside allowed} {inv : M → σ → Prop}

/-- What the threads hold, one token each. -/
def Held (exec : (op : Op) → σ → σ × Ans op) (allowed : Op → σ → Prop) (inv : M → σ → Prop) (tokens : List M)
    (pool : Pool Op Ans ε σ) : Prop :=
  inv tokens.sum pool.state ∧
    List.Forall₂ (fun p own => p.Holds exec allowed inv (fun _ _ => True) own) pool.threads tokens

omit [AddCommMonoid M] in
/-- The thread that works, its token, and those of the others. -/
theorem exists_token {R : Prog Op Ans ε Unit → M → Prop} {before after : List (Prog Op Ans ε Unit)}
    {p : Prog Op Ans ε Unit} {tokens : List M} (h : List.Forall₂ R (before ++ p :: after) tokens) :
    ∃ before' own after', tokens = before' ++ own :: after' ∧ List.Forall₂ R before before' ∧ R p own ∧
      List.Forall₂ R after after' := by
  induction before generalizing tokens with
  | nil =>
      obtain ⟨own, after', hp, hafter, rfl⟩ := List.forall₂_cons_left_iff.mp h
      exact ⟨[], own, after', rfl, .nil, hp, hafter⟩
  | cons q before ih =>
      obtain ⟨own', tokens', hq, hrest, rfl⟩ := List.forall₂_cons_left_iff.mp h
      obtain ⟨before', own, after', rfl, hbefore, hp, hafter⟩ := ih hrest
      exact ⟨own' :: before', own, after', rfl, .cons hq hbefore, hp, hafter⟩

theorem sum_replace (before after : List M) (own : M) :
    (before ++ own :: after).sum = before.sum + after.sum + own := by
  rw [List.sum_append, List.sum_cons, add_comm own, add_assoc]

/-- One step of a pool whose threads hold their tokens. -/
theorem Step.held (houtside : ∀ s s' m, outside s s' → inv m s → inv m s')
    (hstarts : ∀ s p s' m, starts s p s' → inv m s →
      ∃ own, inv (m + own) s' ∧ p.Holds exec allowed inv (fun _ _ => True) own)
    {pool pool' : Pool Op Ans ε σ} (hstep : Step exec starts outside allowed pool pool') {tokens : List M}
    (h : Held exec allowed inv tokens pool) : ∃ tokens', Held exec allowed inv tokens' pool' := by
  obtain ⟨hi, hthreads⟩ := h
  cases hstep with
  | start p hstart =>
      obtain ⟨own, hi', hp⟩ := hstarts _ _ _ _ hstart hi
      refine ⟨tokens ++ [own], ?_, List.rel_append hthreads (.cons hp .nil)⟩
      rw [List.sum_append, List.sum_singleton]
      exact hi'
  | work before after op next hallowed =>
      obtain ⟨before', own, after', rfl, hbefore, hp, hafter⟩ := exists_token hthreads
      rw [sum_replace] at hi
      obtain ⟨own', hi', hnext⟩ := hp _ _ hi hallowed
      refine ⟨before' ++ own' :: after', ?_, List.rel_append hbefore (.cons hnext hafter)⟩
      rw [sum_replace]
      exact hi'
  | background threads hout => exact ⟨tokens, houtside _ _ _ hout hi, hthreads⟩

/-- **The invariant of threads with tokens.** It holds in every run, with what the threads hold. -/
theorem reachable (houtside : ∀ s s' m, outside s s' → inv m s → inv m s')
    (hstarts : ∀ s p s' m, starts s p s' → inv m s →
      ∃ own, inv (m + own) s' ∧ p.Holds exec allowed inv (fun _ _ => True) own)
    {s : σ} (hi : inv 0 s) {pool : Pool Op Ans ε σ}
    (hrun : Relation.ReflTransGen (Step exec starts outside allowed) ⟨s, []⟩ pool) :
    ∃ tokens, Held exec allowed inv tokens pool := by
  induction hrun with
  | refl => exact ⟨[], hi, .nil⟩
  | tail _ hstep ih =>
      obtain ⟨tokens, hheld⟩ := ih
      exact hstep.held houtside hstarts hheld

/-! ## Runs by a schedule -/

omit [AddCommMonoid M]

/-- Threads whose start changes nothing. -/
theorem reaches_started {s : σ} {threads : List (Prog Op Ans ε Unit)} (h : ∀ p ∈ threads, starts s p s) :
    Relation.ReflTransGen (Step exec starts outside allowed) ⟨s, []⟩ ⟨s, threads⟩ := by
  induction threads using List.reverseRecOn with
  | nil => exact .refl
  | append_singleton threads p ih =>
      refine (ih fun q hq => h q ?_).tail (.start p (h p ?_))
      · exact List.mem_append_left _ hq
      · exact List.mem_append_right _ (List.mem_singleton_self p)

/-- The thread of an index works. -/
theorem step_of_getElem? {s : σ} {threads : List (Prog Op Ans ε Unit)} {thread : Nat} {op : Op}
    {next : Ans op → Prog Op Ans ε Unit} (hget : threads[thread]? = some (.call op next)) (h : allowed op s) :
    Step exec starts outside allowed ⟨s, threads⟩ ⟨(exec op s).1, threads.set thread (next (exec op s).2)⟩ := by
  obtain ⟨hlt, hat⟩ := List.getElem?_eq_some_iff.mp hget
  rw [List.set_eq_take_append_cons_drop, if_pos hlt]
  conv_lhs => rw [← List.take_append_drop thread threads, ← List.cons_getElem_drop_succ (h := hlt), hat]
  exact .work _ _ op next h

/-- The thread of an index works, if the check of its operation says that it may. -/
def advance (exec : (op : Op) → σ → σ × Ans op) (check : Op → σ → Bool) (pool : Pool Op Ans ε σ) (thread : Nat) :
    Option (Pool Op Ans ε σ) :=
  match pool.threads[thread]? with
  | some (.call op next) =>
      if check op pool.state then some ⟨(exec op pool.state).1, pool.threads.set thread (next (exec op pool.state).2)⟩
      else none
  | _ => none

theorem step_of_advance {check : Op → σ → Bool} (hcheck : ∀ op s, check op s = true → allowed op s)
    {pool pool' : Pool Op Ans ε σ} {thread : Nat} (h : advance exec check pool thread = some pool') :
    Step exec starts outside allowed pool pool' := by
  unfold advance at h
  split at h
  case h_1 op next hget =>
    split_ifs at h with hop
    obtain rfl := Option.some.inj h
    exact step_of_getElem? hget (hcheck op pool.state hop)
  case h_2 => cases h

theorem reaches_of_schedule {check : Op → σ → Bool} (hcheck : ∀ op s, check op s = true → allowed op s)
    {pool pool' : Pool Op Ans ε σ} {schedule : List Nat}
    (h : schedule.foldlM (advance exec check) pool = some pool') :
    Relation.ReflTransGen (Step exec starts outside allowed) pool pool' := by
  induction schedule generalizing pool with
  | nil =>
      obtain rfl := Option.some.inj h
      exact .refl
  | cons thread schedule ih =>
      rw [List.foldlM_cons] at h
      obtain ⟨mid, hmid, hrest⟩ := Option.bind_eq_some_iff.mp h
      exact .head (step_of_advance hcheck hmid) (ih hrest)

end Threads

end HyperTerm.Lib
