import HyperTerm.Daemon.Operations
import HyperTerm.Daemon.Replay

/-!
# Runs without the bytes

What a run of threads holds in memory does not depend on the encoding of events, as long as no I/O fails and no
line is too long. `dryRun` computes it, and `reaches_of_dryRun` finds the run of the daemon that it stands for.
-/

namespace HyperTerm.Daemon
open HyperTerm.Protocol HyperTerm.Core HyperTerm.Lib

variable {C : LineCodec EventEnvelope} {D : Digests}

/-- One operation on the authority whose I/O, if any, succeeds. -/
def dryExec (D : Digests) : (op : AuthorityOp) → AuthorityState → Option (AuthorityState × AuthorityAns op)
  | .read, a => some (a, a.operations, a.projectors)
  | .record env event, a =>
      if env.io = .done then
        match a.tryEvent D env event with
        | .error e => some (a, .error e)
        | .ok (envelope, operations, projector, patch) =>
            some (⟨⟨[], a.journal.events ++ [envelope]⟩, operations, a.projectors.put projector⟩,
              .ok (envelope, patch))
      else none

/-- A finished thread does nothing. -/
def dryAdvance (D : Digests) (pool : DaemonPool) (thread : Nat) : Option DaemonPool :=
  match pool.threads[thread]? with
  | some (.call op next) =>
      (dryExec D op pool.state).map fun result => ⟨result.1, pool.threads.set thread (next result.2)⟩
  | _ => some pool

/-- The threads run in the order of the schedule, from an empty state directory. -/
def dryRun (D : Digests) (threads : List (Method Unit)) (schedule : List Nat) : Option DaemonPool :=
  schedule.foldlM (dryAdvance D) ⟨emptyAuthority, threads⟩

theorem dryExec_events {op : AuthorityOp} {b b' : AuthorityState} {answer : AuthorityAns op}
    (h : dryExec D op b = some (b', answer)) : b.journal.events <+: b'.journal.events := by
  cases op with
  | read =>
      obtain ⟨rfl, -⟩ := Prod.mk.inj (Option.some.inj h)
      exact List.prefix_rfl
  | record env event =>
      simp only [dryExec] at h
      split_ifs at h
      split at h
      · obtain ⟨rfl, -⟩ := Prod.mk.inj (Option.some.inj h)
        exact List.prefix_rfl
      · obtain ⟨rfl, -⟩ := Prod.mk.inj (Option.some.inj h)
        exact List.prefix_append _ _

/-- The state has the memory of the other, and opening the daemon on its file finds it. -/
structure Stands (C : LineCodec EventEnvelope) (D : Digests) (a b : AuthorityState) : Prop where
  same : SameMemory a b
  opened : openAuthority C D (fun _ => .ok ()) a.journal.file = .ok a

theorem exec_of_dryExec {op : AuthorityOp} {a b b' : AuthorityState} {answer : AuthorityAns op}
    (hstands : Stands C D a b) (h : dryExec D op b = some (b', answer))
    (hlen : ∀ e ∈ b'.journal.events, (C.encode e).length ≤ maxEventLineBytes) :
    (execAuthority C D op a).2 = answer ∧ Stands C D (execAuthority C D op a).1 b' := by
  obtain ⟨hsame, hopen⟩ := hstands
  cases op with
  | read =>
      obtain ⟨rfl, rfl⟩ := Prod.mk.inj (Option.some.inj h)
      refine ⟨?_, hsame, hopen⟩
      simp only [execAuthority, hsame.operations, hsame.projectors]
  | record env event =>
      simp only [dryExec] at h
      split_ifs at h with hio
      have hopened : openAuthority C D (fun _ => .ok ()) (execAuthority C D (.record env event) a).1.journal.file =
          .ok (execAuthority C D (.record env event) a).1 := openAuthority_record hopen hio fun _ _ => rfl
      have htry : a.tryEvent D env event = b.tryEvent D env event := by
        obtain ⟨⟨_, _⟩, _, _⟩ := a
        obtain ⟨⟨_, _⟩, _, _⟩ := b
        obtain ⟨rfl, rfl, rfl⟩ := hsame
        rfl
      split at h
      case h_1 e he =>
        obtain ⟨rfl, rfl⟩ := Prod.mk.inj (Option.some.inj h)
        refine ⟨?_, ?_, hopened⟩
        · simp only [execAuthority, AuthorityState.record, htry, he]
        · simp only [execAuthority, AuthorityState.record, htry, he]
          exact hsame
      case h_2 envelope operations projector patch hok =>
        obtain ⟨rfl, rfl⟩ := Prod.mk.inj (Option.some.inj h)
        have hrecord := AuthorityState.record_of_tryEvent (htry.trans hok) hio (hlen envelope (by simp))
        refine ⟨by rw [execAuthority, hrecord], ?_, hopened⟩
        rw [execAuthority, hrecord]
        exact ⟨by rw [hsame.events], rfl, by rw [hsame.projectors]⟩

theorem dryAdvance_events {pool pool' : DaemonPool} {thread : Nat} (h : dryAdvance D pool thread = some pool') :
    pool.state.journal.events <+: pool'.state.journal.events := by
  unfold dryAdvance at h
  split at h
  · obtain ⟨⟨b', answer⟩, hexec, rfl⟩ := Option.map_eq_some_iff.mp h
    exact dryExec_events hexec
  · obtain rfl := Option.some.inj h
    exact List.prefix_rfl

theorem foldlM_dryAdvance_events {pool pool' : DaemonPool} {schedule : List Nat}
    (h : schedule.foldlM (dryAdvance D) pool = some pool') :
    pool.state.journal.events <+: pool'.state.journal.events := by
  induction schedule generalizing pool with
  | nil =>
      obtain rfl := Option.some.inj h
      exact List.prefix_rfl
  | cons thread schedule ih =>
      simp only [List.foldlM_cons, Option.bind_eq_bind, Option.bind_eq_some_iff] at h
      obtain ⟨pool₁, h₁, h⟩ := h
      exact (dryAdvance_events h₁).trans (ih h)

variable {spawnable : Method Unit → Prop}

theorem advance_of_dryAdvance {a : AuthorityState} {pool pool' : DaemonPool} {thread : Nat}
    (hstands : Stands C D a pool.state) (h : dryAdvance D pool thread = some pool')
    (hlen : ∀ e ∈ pool'.state.journal.events, (C.encode e).length ≤ maxEventLineBytes) :
    pool' = pool ∨ ∃ a', Pool.advance (execAuthority C D) ⟨a, pool.threads⟩ thread = some ⟨a', pool'.threads⟩ ∧
      Stands C D a' pool'.state := by
  unfold dryAdvance at h
  split at h
  case h_1 op next hget =>
    obtain ⟨⟨b', answer⟩, hexec, rfl⟩ := Option.map_eq_some_iff.mp h
    obtain ⟨rfl, hstands'⟩ := exec_of_dryExec hstands hexec hlen
    refine Or.inr ⟨_, ?_, hstands'⟩
    simp only [Pool.advance, hget]
  case h_2 => exact Or.inl (Option.some.inj h).symm

theorem reaches_of_dryAdvance {a : AuthorityState} {pool pool' : DaemonPool} {schedule : List Nat}
    (hstands : Stands C D a pool.state) (h : schedule.foldlM (dryAdvance D) pool = some pool')
    (hlen : ∀ e ∈ pool'.state.journal.events, (C.encode e).length ≤ maxEventLineBytes) :
    ∃ a', Relation.ReflTransGen (Pool.Step (execAuthority C D) spawnable) ⟨a, pool.threads⟩ ⟨a', pool'.threads⟩ ∧
      Stands C D a' pool'.state := by
  induction schedule generalizing a pool with
  | nil =>
      obtain rfl := Option.some.inj h
      exact ⟨a, .refl, hstands⟩
  | cons thread schedule ih =>
      simp only [List.foldlM_cons, Option.bind_eq_bind, Option.bind_eq_some_iff] at h
      obtain ⟨pool₁, h₁, h⟩ := h
      have hhead := foldlM_dryAdvance_events h
      rcases advance_of_dryAdvance hstands h₁ fun e he => hlen e (hhead.subset he) with rfl | ⟨a₁, hstep, hstands₁⟩
      · exact ih hstands h
      · obtain ⟨a', hrun, hstands'⟩ := ih hstands₁ h
        exact ⟨a', .head (.advance thread hstep) hrun, hstands'⟩

/-- The run of the daemon for a dry run, with short lines for the events it journals. -/
theorem reaches_of_dryRun {threads : List (Method Unit)} {schedule : List Nat} {pool' : DaemonPool}
    (hthreads : ∀ m ∈ threads, spawnable m) (h : dryRun D threads schedule = some pool')
    (hlen : pool'.state.journal.events.length ≤ maxEventLineBytes) :
    ∃ a, Relation.ReflTransGen (Pool.Step (execAuthority (.short pool'.state.journal.events) D) spawnable)
      DaemonPool.start ⟨a, pool'.threads⟩ ∧ Stands (.short pool'.state.journal.events) D a pool'.state := by
  obtain ⟨a, hrun, hstands⟩ := reaches_of_dryAdvance ⟨.refl emptyAuthority, openAuthority_nil⟩ h fun e he =>
    (LineCodec.length_short_encode_le _ he).trans hlen
  exact ⟨a, (Pool.reaches_spawned _ hthreads).trans hrun, hstands⟩

/-! ## Sample requests -/

def sampleEnv (i : Nat) : RecordEnv := ⟨.ok i, ⟨BitVec.ofNat 128 i⟩, .done⟩

def sampleOperation : OperationId := ⟨1⟩

def sampleChecks : ProposalChecks where
  validateOperationEnvironment _ := .ok ()
  validateMcpServerLaunch _ := .ok ()
  validateLocalMcpToolCall _ := .ok ()
  validateBrokeredMcpToolCall _ := .ok ()
  boundApprovalDetail r := .ok
    { detail :=
        { schemaVersion := 1, operationId := r.operationId, operationRevision := r.revision
          actionDigest := "action", action := .opaqueAction "edit" "payload", risk := r.risk
          effectiveCapabilities := r.requiredCapabilities, opaqueEffect := true }
      detailDigest := "detail" }

def sampleCreate : Method Unit := Method.record (sampleEnv 0) (sampleCall 1 none (.taskCreated "task")).event

def samplePropose : Method OperationRecord :=
  proposeOperation sampleChecks sampleEnv sampleOperation sampleTask .fileEdit (.opaqueAction "edit" "payload")
    "edit a file" .externalEffect []

def sampleDecide (decision : PermissionDecision) : Method OperationRecord :=
  decidePermission sampleEnv sampleTask sampleOperation 3 decision (fun _ => .error .invalidApprovalDetail) (.ok ())

def sampleBegin : Method OperationRecord := beginOperation (sampleEnv 0) sampleTask sampleOperation 4

theorem request_sampleCreate : Request sampleCreate := .event _ _ rfl

end HyperTerm.Daemon
