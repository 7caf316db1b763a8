import HyperTerm.Daemon.Charges
import HyperTerm.Daemon.DryRun

/-!
# Runs of a gateway without the bytes

`sharedDryRun` computes what a run of a gateway's threads holds in memory, as `dryRun` does for the daemon alone, and
`reaches_of_sharedDryRun` finds the run that it stands for. The threads start first and work in the order of a schedule;
an operation that does not pass the check ends the dry run.
-/

namespace HyperTerm.Daemon
open HyperTerm.Protocol HyperTerm.Core HyperTerm.Lib

variable {Op : Type} {Ans : Op → Type} {σ ε : Type} {C : LineCodec EventEnvelope} {D : Digests}
  {exec : (op : Op) → σ → σ × Ans op}

abbrev SharedPool (Op : Type) (Ans : Op → Type) (ε σ : Type) : Type := Pool (SharedOp Op) (SharedAns Ans) ε (Shared σ)

/-- One operation whose I/O on the authority, if any, succeeds. -/
def sharedDryExec (D : Digests) (exec : (op : Op) → σ → σ × Ans op) :
    (op : SharedOp Op) → Shared σ → Option (Shared σ × SharedAns Ans op)
  | .authority op, s => (dryExec D op s.authority).map fun r => (⟨r.1, s.own⟩, r.2)
  | .own op, s => some (⟨s.authority, (exec op s.own).1⟩, (exec op s.own).2)

def sharedDryAdvance (D : Digests) (exec : (op : Op) → σ → σ × Ans op) (check : SharedOp Op → Shared σ → Bool)
    (pool : SharedPool Op Ans ε σ) (thread : Nat) : Option (SharedPool Op Ans ε σ) :=
  match pool.threads[thread]? with
  | some (.call op next) =>
      if check op pool.state then
        (sharedDryExec D exec op pool.state).map fun r => ⟨r.1, pool.threads.set thread (next r.2)⟩
      else none
  | _ => some pool

/-- A daemon on which there is a task, and the threads in the order of the schedule. -/
def sharedDryRun (D : Digests) (exec : (op : Op) → σ → σ × Ans op) (check : SharedOp Op → Shared σ → Bool) (own : σ)
    (threads : List (Prog (SharedOp Op) (SharedAns Ans) ε Unit)) (schedule : List Nat) :
    Option (SharedPool Op Ans ε σ) :=
  (dryRun D [sampleCreate] [0]).bind fun daemon =>
    schedule.foldlM (sharedDryAdvance D exec check) ⟨⟨daemon.state, own⟩, threads⟩

variable {check : SharedOp Op → Shared σ → Bool} {allowed : SharedOp Op → Shared σ → Prop}
  {starts : Shared σ → Prog (SharedOp Op) (SharedAns Ans) ε Unit → Shared σ → Prop}
  {outside : Shared σ → Shared σ → Prop}

theorem sharedDryExec_events {op : SharedOp Op} {s s' : Shared σ} {answer : SharedAns Ans op}
    (h : sharedDryExec D exec op s = some (s', answer)) :
    s.authority.journal.events <+: s'.authority.journal.events := by
  cases op with
  | own op =>
      obtain ⟨rfl, -⟩ := Prod.mk.inj (Option.some.inj h)
      exact List.prefix_rfl
  | authority op =>
      obtain ⟨⟨a, answer'⟩, hexec, heq⟩ := Option.map_eq_some_iff.mp h
      obtain ⟨rfl, -⟩ := Prod.mk.inj heq
      exact dryExec_events hexec

theorem exec_of_sharedDryExec {op : SharedOp Op} {s s' : Shared σ} {a : AuthorityState} {answer : SharedAns Ans op}
    (hstands : Stands C D a s.authority) (h : sharedDryExec D exec op s = some (s', answer))
    (hlen : ∀ e ∈ s'.authority.journal.events, (C.encode e).length ≤ maxEventLineBytes) :
    ∃ a', execShared C D exec op ⟨a, s.own⟩ = (⟨a', s'.own⟩, answer) ∧ Stands C D a' s'.authority := by
  cases op with
  | own op =>
      obtain ⟨rfl, rfl⟩ := Prod.mk.inj (Option.some.inj h)
      exact ⟨a, rfl, hstands⟩
  | authority op =>
      obtain ⟨⟨b, answer'⟩, hexec, heq⟩ := Option.map_eq_some_iff.mp h
      obtain ⟨rfl, rfl⟩ := Prod.mk.inj heq
      obtain ⟨hanswer, hstands'⟩ := exec_of_dryExec hstands hexec hlen
      exact ⟨_, Prod.ext rfl hanswer, hstands'⟩

theorem sharedDryAdvance_events {pool pool' : SharedPool Op Ans ε σ} {thread : Nat}
    (h : sharedDryAdvance D exec check pool thread = some pool') :
    pool.state.authority.journal.events <+: pool'.state.authority.journal.events := by
  unfold sharedDryAdvance at h
  split at h
  · split_ifs at h
    obtain ⟨⟨s', answer⟩, hexec, rfl⟩ := Option.map_eq_some_iff.mp h
    exact sharedDryExec_events hexec
  · obtain rfl := Option.some.inj h
    exact List.prefix_rfl

theorem foldlM_sharedDryAdvance_events {pool pool' : SharedPool Op Ans ε σ} {schedule : List Nat}
    (h : schedule.foldlM (sharedDryAdvance D exec check) pool = some pool') :
    pool.state.authority.journal.events <+: pool'.state.authority.journal.events := by
  induction schedule generalizing pool with
  | nil =>
      obtain rfl := Option.some.inj h
      exact List.prefix_rfl
  | cons thread schedule ih =>
      simp only [List.foldlM_cons, Option.bind_eq_bind, Option.bind_eq_some_iff] at h
      obtain ⟨pool₁, h₁, h⟩ := h
      exact (sharedDryAdvance_events h₁).trans (ih h)

theorem reaches_of_sharedDryAdvance
    (hcheck : ∀ op (s : Shared σ) a, SameMemory a s.authority → check op s = true → allowed op ⟨a, s.own⟩)
    {a : AuthorityState} {pool pool' : SharedPool Op Ans ε σ} {schedule : List Nat}
    (hstands : Stands C D a pool.state.authority)
    (h : schedule.foldlM (sharedDryAdvance D exec check) pool = some pool')
    (hlen : ∀ e ∈ pool'.state.authority.journal.events, (C.encode e).length ≤ maxEventLineBytes) :
    ∃ a', Relation.ReflTransGen (Threads.Step (execShared C D exec) starts outside allowed)
        ⟨⟨a, pool.state.own⟩, pool.threads⟩ ⟨⟨a', pool'.state.own⟩, pool'.threads⟩ ∧
      Stands C D a' pool'.state.authority := by
  induction schedule generalizing a pool with
  | nil =>
      obtain rfl := Option.some.inj h
      exact ⟨a, .refl, hstands⟩
  | cons thread schedule ih =>
      simp only [List.foldlM_cons, Option.bind_eq_bind, Option.bind_eq_some_iff] at h
      obtain ⟨pool₁, h₁, h⟩ := h
      have hhead := foldlM_sharedDryAdvance_events h
      unfold sharedDryAdvance at h₁
      split at h₁
      · rename_i op next hget
        split_ifs at h₁ with hop
        obtain ⟨⟨s', answer⟩, hexec, rfl⟩ := Option.map_eq_some_iff.mp h₁
        obtain ⟨a₁, heq, hstands₁⟩ := exec_of_sharedDryExec hstands hexec fun e he => hlen e (hhead.subset he)
        obtain ⟨a', hrun, hstands'⟩ := ih hstands₁ h
        have hstep : Threads.Step (execShared C D exec) starts outside allowed _ _ :=
          Threads.step_of_getElem? hget (hcheck op pool.state a hstands.same hop)
        rw [heq] at hstep
        exact ⟨a', .head hstep hrun, hstands'⟩
      · obtain rfl := Option.some.inj h₁
        exact ih hstands h

/-- The run of a gateway for a dry run, from a daemon on which there is a task. -/
theorem reaches_of_sharedDryRun
    (hcheck : ∀ op (s : Shared σ) a, SameMemory a s.authority → check op s = true → allowed op ⟨a, s.own⟩)
    {own : σ} {threads : List (Prog (SharedOp Op) (SharedAns Ans) ε Unit)} {schedule : List Nat}
    {pool' : SharedPool Op Ans ε σ} (hthreads : ∀ p ∈ threads, ∀ s, starts s p s)
    (h : sharedDryRun D exec check own threads schedule = some pool')
    (hlen : pool'.state.authority.journal.events.length ≤ maxEventLineBytes) :
    ∃ C a a', openAuthority C D (fun _ => .ok ()) a.journal.file = .ok a ∧
      Relation.ReflTransGen (Threads.Step (execShared C D exec) starts outside allowed) ⟨⟨a, own⟩, []⟩
        ⟨⟨a', pool'.state.own⟩, pool'.threads⟩ ∧ SameMemory a' pool'.state.authority := by
  obtain ⟨daemon, hdaemon, hschedule⟩ := Option.bind_eq_some_iff.mp h
  have hshort : ∀ e ∈ pool'.state.authority.journal.events,
      ((LineCodec.short pool'.state.authority.journal.events).encode e).length ≤ maxEventLineBytes :=
    fun e he => (LineCodec.length_short_encode_le _ he).trans hlen
  have hgrows := foldlM_sharedDryAdvance_events hschedule
  obtain ⟨a, -, hstands⟩ : ∃ a, Relation.ReflTransGen (Pool.Step (execAuthority _ D) Request) _ _ ∧ _ :=
    reaches_of_dryAdvance ⟨.refl emptyAuthority, openAuthority_nil⟩ hdaemon fun e he => hshort e (hgrows.subset he)
  obtain ⟨a', hrun, hstands'⟩ := reaches_of_sharedDryAdvance hcheck hstands hschedule hshort
  exact ⟨_, a, a', hstands.opened, (Threads.reaches_started fun p hp => hthreads p hp _).trans hrun, hstands'.same⟩

section Twice

variable {check' : SharedOp Op → Shared σ → Bool} {allowed' : SharedOp Op → Shared σ → Prop}
  {starts' : Shared σ → Prog (SharedOp Op) (SharedAns Ans) ε Unit → Shared σ → Prop}
  {outside' : Shared σ → Shared σ → Prop}

/-- A run of a gateway, and from where it ends a run of other threads. -/
theorem reaches_of_sharedDryRuns
    (hcheck : ∀ op (s : Shared σ) a, SameMemory a s.authority → check op s = true → allowed op ⟨a, s.own⟩)
    (hcheck' : ∀ op (s : Shared σ) a, SameMemory a s.authority → check' op s = true → allowed' op ⟨a, s.own⟩)
    {own : σ} {threads threads' : List (Prog (SharedOp Op) (SharedAns Ans) ε Unit)} {schedule schedule' : List Nat}
    {mid pool' : SharedPool Op Ans ε σ} (hthreads : ∀ p ∈ threads, ∀ s, starts s p s)
    (hthreads' : ∀ p ∈ threads', ∀ s, starts' s p s) (hmid : sharedDryRun D exec check own threads schedule = some mid)
    (h : schedule'.foldlM (sharedDryAdvance D exec check') ⟨mid.state, threads'⟩ = some pool')
    (hlen : pool'.state.authority.journal.events.length ≤ maxEventLineBytes) :
    ∃ C a b a', openAuthority C D (fun _ => .ok ()) a.journal.file = .ok a ∧
      Relation.ReflTransGen (Threads.Step (execShared C D exec) starts outside allowed) ⟨⟨a, own⟩, []⟩
        ⟨⟨b, mid.state.own⟩, mid.threads⟩ ∧ SameMemory b mid.state.authority ∧
      Relation.ReflTransGen (Threads.Step (execShared C D exec) starts' outside' allowed') ⟨⟨b, mid.state.own⟩, []⟩
        ⟨⟨a', pool'.state.own⟩, pool'.threads⟩ ∧ SameMemory a' pool'.state.authority := by
  obtain ⟨daemon, hdaemon, hschedule⟩ := Option.bind_eq_some_iff.mp hmid
  have hshort : ∀ e ∈ pool'.state.authority.journal.events,
      ((LineCodec.short pool'.state.authority.journal.events).encode e).length ≤ maxEventLineBytes :=
    fun e he => (LineCodec.length_short_encode_le _ he).trans hlen
  have hgrows := foldlM_sharedDryAdvance_events h
  have hgrows' := foldlM_sharedDryAdvance_events hschedule
  obtain ⟨a, -, hstands⟩ : ∃ a, Relation.ReflTransGen (Pool.Step (execAuthority _ D) Request) _ _ ∧ _ :=
    reaches_of_dryAdvance ⟨.refl emptyAuthority, openAuthority_nil⟩ hdaemon fun e he =>
      hshort e (hgrows.subset (hgrows'.subset he))
  obtain ⟨b, hrun, hstands₁⟩ := reaches_of_sharedDryAdvance hcheck hstands hschedule fun e he =>
    hshort e (hgrows.subset he)
  have hstarted : Stands (.short pool'.state.authority.journal.events) D b
      (⟨mid.state, threads'⟩ : SharedPool Op Ans ε σ).state.authority := hstands₁
  obtain ⟨a', hrun', hstands₂⟩ := reaches_of_sharedDryAdvance hcheck' hstarted h hshort
  exact ⟨_, a, b, a', hstands.opened, (Threads.reaches_started fun p hp => hthreads p hp _).trans hrun, hstands₁.same,
    (Threads.reaches_started fun p hp => hthreads' p hp _).trans hrun', hstands₂.same⟩

end Twice

end HyperTerm.Daemon
