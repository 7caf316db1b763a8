import HyperTerm.Daemon.BrokeredMcp

/-!
# A tool is executed once

An operation whose tool was executed is in the cache, or about to be, unless its execution was dropped.

* `OnceInv` : the invariant, with the operations that threads are about to execute or have executed;
* `executed_once` : in every run within the condition no tool is executed twice.
-/

namespace HyperTerm.Daemon.Brokered
open HyperTerm.Protocol HyperTerm.Core HyperTerm.Lib BrokeredProg

/-- A call that finds nothing cached for an operation is the only one on its way from there to the cache, and no execution
of the operation was dropped from it. -/
def ClaimedOnce : BrokeredOp → BrokeredShared → Prop
  | .claim operationId, s =>
      s.executions.get? operationId = none → operationId ∉ s.executing ∧ operationId ∉ s.dropped
  | _, _ => True

/-! ## The invariant -/

/-- The operations whose tool the thread is to execute, and those it has executed and is to cache. -/
abbrev OnceToken := Multiset OperationId × Multiset OperationId

structure OnceInv (m : OnceToken) (s : BrokeredShared) : Prop where
  executing : (s.executing : Multiset OperationId) = m.1 + m.2
  nodup : (m.1 + m.2).Nodup
  once : s.executed.Nodup
  fresh : ∀ id ∈ m.1, id ∉ s.executed
  kept : ∀ id ∈ s.executed, id ∈ m.2 ∨ (s.executions.get? id).isSome = true ∨ id ∈ s.dropped

variable {m rest : OnceToken} {s : BrokeredShared} {id : OperationId} {C : LineCodec EventEnvelope} {D : Digests}
  {α β : Type}

namespace OnceInv

theorem start : OnceInv 0 .start :=
  ⟨rfl, Multiset.nodup_zero, List.nodup_nil, fun id h => absurd h (Multiset.notMem_zero id),
    fun _ h => absurd h List.not_mem_nil⟩

/-- The right to execute a tool. -/
theorem claim (h : OnceInv m s) (hnone : s.executions.get? id = none) (hfree : id ∉ s.executing ∧ id ∉ s.dropped) :
    OnceInv (m + ({id}, 0)) { s with executing := id :: s.executing } := by
  have hunclaimed : id ∉ m.1 + m.2 := h.executing ▸ hfree.1
  have hexecuting : (↑(id :: s.executing) : Multiset OperationId) = (m.1 + {id}) + (m.2 + 0) := by
    rw [← Multiset.cons_coe, h.executing, ← Multiset.singleton_add, add_zero, add_comm m.1 {id}, add_assoc]
  refine ⟨hexecuting, ?_, h.once, fun id' hmem => ?_, fun id' hmem => ?_⟩
  · show ((m.1 + {id}) + (m.2 + 0)).Nodup
    rw [← hexecuting, ← Multiset.cons_coe, h.executing, Multiset.nodup_cons]
    exact ⟨hunclaimed, h.nodup⟩
  · obtain hold | hnew := Multiset.mem_add.mp hmem
    · exact h.fresh id' hold
    · obtain rfl := Multiset.mem_singleton.mp hnew
      intro hexecuted
      obtain hran | hcached | hdropped := h.kept id' hexecuted
      · exact hunclaimed (Multiset.mem_add.mpr (Or.inr hran))
      · rw [hnone] at hcached
        exact Bool.false_ne_true hcached
      · exact hfree.2 hdropped
  · exact (h.kept id' hmem).imp (fun hran => Multiset.mem_add.mpr (Or.inl hran)) fun hkept => hkept

theorem execute (h : OnceInv (m + ({id}, 0)) s) :
    OnceInv (m + (0, {id})) { s with executed := id :: s.executed } := by
  have hsum : (m.1 + {id}) + (m.2 + 0) = (m.1 + 0) + (m.2 + {id}) := by
    rw [add_zero, add_zero, add_assoc, add_comm {id} m.2]
  have hnodup : ((m.1 + {id}) + (m.2 + 0)).Nodup := h.nodup
  have hself : id ∈ m.1 + {id} := Multiset.mem_add.mpr (Or.inr (Multiset.mem_singleton_self id))
  have hother : id ∉ m.1 := by
    rw [add_zero, add_right_comm, Multiset.nodup_add] at hnodup
    intro hmem
    exact Multiset.disjoint_singleton.mp hnodup.2.2 (Multiset.mem_add.mpr (Or.inl hmem))
  refine ⟨h.executing.trans hsum, ?_, List.nodup_cons.mpr ⟨h.fresh id hself, h.once⟩, fun id' hmem => ?_, fun id' hmem => ?_⟩
  · show ((m.1 + 0) + (m.2 + {id})).Nodup
    rw [← hsum]
    exact hnodup
  · have hmem' : id' ∈ m.1 := by
      rw [← add_zero m.1]
      exact hmem
    rw [List.mem_cons, not_or]
    exact ⟨fun heq => hother (heq ▸ hmem'), h.fresh id' (Multiset.mem_add.mpr (Or.inl hmem'))⟩
  · obtain rfl | hold := List.mem_cons.mp hmem
    · exact Or.inl (Multiset.mem_add.mpr (Or.inr (Multiset.mem_singleton_self _)))
    · refine (h.kept id' hold).imp (fun hran => Multiset.mem_add.mpr (Or.inl ?_)) fun hkept => hkept
      rw [← add_zero m.2]
      exact hran

theorem insert {cached : CachedBrokeredMcpExecution} (h : OnceInv (m + (0, {cached.operationId})) s) :
    OnceInv m { s with
      executions := s.executions.put cached
      executing := s.executing.erase cached.operationId } := by
  have hexecuting : (s.executing : Multiset OperationId) = (m.1 + m.2) + {cached.operationId} := by
    rw [h.executing]
    show (m.1 + 0) + (m.2 + {cached.operationId}) = _
    rw [add_zero, add_assoc]
  have hnodup := h.nodup
  rw [← h.executing, hexecuting] at hnodup
  refine ⟨?_, (Multiset.nodup_add.mp hnodup).1, h.once, fun id hmem => ?_, fun id hmem => ?_⟩
  · rw [← Multiset.coe_erase, hexecuting, add_comm, Multiset.singleton_add, Multiset.erase_cons_head]
  · refine h.fresh id ?_
    show id ∈ m.1 + 0
    rw [add_zero]
    exact hmem
  · show id ∈ m.2 ∨ ((s.executions.put cached).get? id).isSome = true ∨ id ∈ s.dropped
    rw [Keyed.get?_put]
    by_cases hid : id = cached.operationId
    · rw [if_pos hid]
      exact Or.inr (Or.inl rfl)
    · rw [if_neg hid]
      refine (h.kept id hmem).imp (fun hran => ?_) fun hkept => hkept
      exact (Multiset.mem_add.mp hran).resolve_right fun hself => hid (Multiset.mem_singleton.mp hself)

/-- What is removed from the cache is dropped. -/
theorem retain (h : OnceInv m s) (taskId : TaskId) :
    OnceInv m { s with
      executions := s.executions.retain fun cached => cached.taskId ≠ taskId
      dropped := s.ofTask taskId ++ s.dropped } := by
  refine { h with kept := fun id hmem => ?_ }
  obtain hran | hcached | hdropped := h.kept id hmem
  · exact Or.inl hran
  · obtain ⟨cached, hget⟩ := Option.isSome_iff_exists.mp hcached
    by_cases htask : cached.taskId = taskId
    · refine Or.inr (Or.inr (List.mem_append_left _ (List.mem_map.mpr ⟨cached, ?_, Keyed.key_eq_of_get? hget⟩)))
      refine List.mem_filter.mpr ⟨Keyed.mem_values.mpr ?_, decide_eq_true htask⟩
      rw [Keyed.key_eq_of_get? hget]
      exact hget
    · refine Or.inr (Or.inl (Option.isSome_iff_exists.mpr ⟨cached, ?_⟩))
      exact Keyed.get?_retain_eq_some.mpr ⟨hget, decide_eq_true htask⟩
  · exact Or.inr (Or.inr (List.mem_append_right _ hdropped))

/-- An execution is replaced in the cache. -/
theorem put (h : OnceInv m s) (cached : CachedBrokeredMcpExecution) :
    OnceInv m { s with executions := s.executions.put cached } := by
  refine { h with kept := fun id hmem => (h.kept id hmem).imp_right fun hkept => hkept.imp_left fun hsome => ?_ }
  show ((s.executions.put cached).get? id).isSome = true
  rw [Keyed.get?_put]
  split_ifs
  · rfl
  · exact hsome

end OnceInv

/-! ## The methods -/

/-- A thread that runs the program from what it holds keeps the invariant, whatever the others do. -/
abbrev OnceKeeping (C : LineCodec EventEnvelope) (D : Digests) (p : BrokeredProg α)
    (post : Except BrokeredError α → OnceToken → Prop) (own : OnceToken) : Prop :=
  p.Holds (execShared C D execBrokered) (brokeredAllowed ClaimedOnce) (fun m s => OnceInv m s.own) post own

/-- What a call leaves its thread with. -/
abbrev Nothing (_ : Except BrokeredError α) (own : OnceToken) : Prop := own = 0

theorem once_own {op : BrokeredOp} {f : BrokeredAns op → BrokeredProg α} {post : Except BrokeredError α → OnceToken → Prop}
    {own : OnceToken}
    (h : ∀ s rest, OnceInv (rest + own) s → op.ready s = true → ClaimedOnce op s →
      ∃ own', OnceInv (rest + own') (execBrokered op s).1 ∧ OnceKeeping C D (f (execBrokered op s).2) post own') :
    OnceKeeping C D (BrokeredProg.own op >>= f) post own :=
  Prog.holds_perform_bind fun s rest hi hallowed => h s.own rest hi hallowed.1 hallowed.2

/-- An operation that changes nothing that the invariant is about. -/
theorem once_quiet {op : BrokeredOp} {f : BrokeredAns op → BrokeredProg α}
    {post : Except BrokeredError α → OnceToken → Prop}
    (hquiet : ∀ s m, OnceInv m s → OnceInv m (execBrokered op s).1)
    (h : ∀ answer, OnceKeeping C D (f answer) post 0) : OnceKeeping C D (BrokeredProg.own op >>= f) post 0 :=
  once_own fun s _ hi _ _ => ⟨0, hquiet s _ hi, h _⟩

theorem once_lift_bind {r : Except BrokeredError β} {f : β → BrokeredProg α}
    {post : Except BrokeredError α → OnceToken → Prop} {own : OnceToken} (herr : ∀ e, r = .error e → post (.error e) own)
    (hok : ∀ b, r = .ok b → OnceKeeping C D (f b) post own) : OnceKeeping C D (lift r >>= f) post own := by
  cases r with
  | ok b => exact hok b rfl
  | error e => exact herr e rfl

theorem once_lift (r : Except BrokeredError α) : OnceKeeping C D (lift r) Nothing 0 := by
  cases r with
  | ok a => exact rfl
  | error e => exact rfl

/-- The methods of the daemon leave the state beside it alone. -/
theorem once_daemonCall (method : Method α) {post : Except BrokeredError (Except DaemonError α) → OnceToken → Prop}
    {own : OnceToken} (h : ∀ r, post (.ok r) own) : OnceKeeping C D (daemonCall method) post own := by
  induction method with
  | ret r => exact h r
  | call op next ih => exact fun s rest hi _ => ⟨own, hi, ih _⟩

theorem once_daemon (method : Method α) : OnceKeeping C D (daemon method) Nothing 0 := by
  unfold daemon
  have hcall : OnceKeeping C D (daemonCall method) Nothing 0 := once_daemonCall method fun _ => rfl
  refine hcall.bind (fun r own hown => ?_) fun _ _ hown => hown
  subst hown
  exact once_lift _

theorem once_daemon_bind {method : Method β} {f : β → BrokeredProg α}
    (h : ∀ b, OnceKeeping C D (f b) Nothing 0) : OnceKeeping C D (daemon method >>= f) Nothing 0 :=
  (once_daemon method).bind (fun b _ hown => hown ▸ h b) fun _ _ hown => hown

theorem once_cached (taskId : TaskId) (operationId : OperationId) (operationRevision : Nat) (binding : BrokeredMcpBinding) :
    OnceKeeping C D (cachedBrokeredMcpExecution taskId operationId operationRevision binding) Nothing 0 := by
  unfold cachedBrokeredMcpExecution
  exact once_quiet (fun _ _ hi => hi) fun _ => rfl

theorem once_cached_bind {taskId : TaskId} {operationId : OperationId} {operationRevision : Nat}
    {binding : BrokeredMcpBinding} {f : Option CachedBrokeredMcpExecution → BrokeredProg α}
    (h : ∀ cached, OnceKeeping C D (f cached) Nothing 0) :
    OnceKeeping C D (cachedBrokeredMcpExecution taskId operationId operationRevision binding >>= f) Nothing 0 :=
  (once_cached taskId operationId operationRevision binding).bind (fun cached _ hown => hown ▸ h cached)
    fun _ _ hown => hown

/-- Under the lock the tool is executed if nothing is cached. -/
theorem once_executeLocked (taskId : TaskId) (operationId : OperationId) (expectedRevision : Nat)
    (binding : BrokeredMcpBinding) (executed : BrokeredMcpToolExecution) :
    OnceKeeping C D (executeLocked taskId operationId expectedRevision binding executed) Nothing 0 := by
  unfold executeLocked
  refine once_own fun s rest hi _ hclaim => ?_
  show ∃ own', OnceInv _ (if (s.executions.get? operationId).isNone then _ else s) ∧
    OnceKeeping C D (lift (matching taskId expectedRevision binding (s.executions.get? operationId)) >>= _) Nothing own'
  cases hget : s.executions.get? operationId with
  | some cached =>
      refine ⟨0, hi, once_lift_bind (fun _ _ => rfl) fun found hfound => ?_⟩
      have hsome : found = some cached := by
        unfold matching at hfound
        dsimp only at hfound
        split_ifs at hfound
        exact (Except.ok.inj hfound).symm
      subst hsome
      exact rfl
  | none =>
      rw [add_zero] at hi
      refine ⟨({operationId}, 0), hi.claim hget (hclaim hget), ?_⟩
      refine once_own fun s rest hi _ _ => ⟨(0, {operationId}), hi.execute, ?_⟩
      refine once_own fun s rest hi _ _ => ⟨0, ?_, rfl⟩
      rw [add_zero]
      exact OnceInv.insert hi

theorem once_executeBound (binding : BrokeredMcpBinding) (taskId : TaskId) (operationId : OperationId)
    (expectedRevision : Nat) (executed : BrokeredMcpToolExecution) :
    OnceKeeping C D (executeBound binding taskId operationId expectedRevision executed) Nothing 0 := by
  unfold executeBound
  refine once_daemon_bind fun record => once_lift_bind (fun _ _ => rfl) fun _ _ => ?_
  refine once_lift_bind (fun _ _ => rfl) fun _ _ => once_lift_bind (fun _ _ => rfl) fun _ _ => ?_
  refine once_cached_bind fun cached => ?_
  cases cached with
  | some cached => exact rfl
  | none =>
      refine once_quiet (fun _ _ hi => hi) fun runtime => ?_
      cases runtime with
      | none => exact rfl
      | some executor =>
          refine once_quiet (fun _ _ hi => { hi with }) fun _ => ?_
          have hlocked := (once_executeLocked (C := C) (D := D) taskId operationId expectedRevision binding executed)
          refine Prog.Holds.andThen (Prog.Holds.attempt (hlocked.weaken fun result own hown => ?_))
          subst hown
          refine once_quiet (fun _ _ hi => { hi with }) fun _ => ?_
          cases result with
          | ok execution => exact rfl
          | error e => exact rfl

theorem once_executeBrokeredMcpTool (E : CallDigests) (taskId : TaskId) (operationId : OperationId)
    (expectedRevision : Nat) (toolName proposalDigest : String) (arguments : Value)
    (executed : BrokeredMcpToolExecution) :
    OnceKeeping C D (executeBrokeredMcpTool E taskId operationId expectedRevision toolName proposalDigest arguments
      executed) Nothing 0 := by
  unfold executeBrokeredMcpTool
  exact once_lift_bind (fun _ _ => rfl) fun binding _ => once_executeBound binding taskId operationId expectedRevision executed

theorem once_dispatchOrRetry (env : RunEnv) (binding : BrokeredMcpBinding) (taskId : TaskId) (operationId : OperationId)
    (expectedRevision : Nat) :
    OnceKeeping C D (dispatchOrRetry env binding taskId operationId expectedRevision) Nothing 0 := by
  unfold dispatchOrRetry
  refine once_daemon_bind fun record => once_lift_bind (fun _ _ => rfl) fun _ _ => ?_
  refine once_lift_bind (fun _ _ => rfl) fun _ _ => ?_
  split_ifs
  · exact once_lift_bind (fun _ _ => rfl) fun _ _ => once_daemon_bind fun _ => rfl
  · exact rfl
  · refine once_cached_bind fun cached => ?_
    cases cached with
    | some cached => exact rfl
    | none => exact rfl
  · exact rfl
  · exact rfl

theorem once_acceptBrokeredGenuiResult (env : RunEnv) (taskId : TaskId) (operationId : OperationId)
    (dispatchingRevision : Nat) (execution : BrokeredMcpToolExecution) :
    OnceKeeping C D (acceptBrokeredGenuiResult env taskId operationId dispatchingRevision execution) Nothing 0 := by
  unfold acceptBrokeredGenuiResult
  cases execution.structuredContent.bind env.candidate with
  | none => exact rfl
  | some schemaVersion =>
      have haccept : OnceKeeping C D (acceptGenuiArtifact env taskId operationId dispatchingRevision) Nothing 0 := by
        unfold acceptGenuiArtifact
        refine once_quiet (fun _ _ hi => { hi with }) fun _ => ?_
        have hcall : OnceKeeping C D (daemonCall (acceptLocked env taskId operationId dispatchingRevision)) Nothing 0 :=
          once_daemonCall _ fun _ => rfl
        refine hcall.bind (fun _ _ hown => ?_) fun _ _ hown => hown
        subst hown
        exact once_quiet (fun _ _ hi => { hi with }) fun _ => rfl
      refine haccept.bind (fun accepted _ hown => ?_) fun _ _ hown => hown
      subst hown
      cases accepted with
      | ok accepted => exact rfl
      | error e => exact rfl

theorem once_processExecution (env : RunEnv) (binding : BrokeredMcpBinding) (taskId : TaskId) (operationId : OperationId)
    (dispatchingRevision : Nat) (execution : BrokeredMcpToolExecution) :
    OnceKeeping C D (processExecution env binding taskId operationId dispatchingRevision execution) Nothing 0 := by
  unfold processExecution
  refine once_quiet (fun s m hi => ?_) fun cached => once_lift_bind (fun _ _ => rfl) fun _ _ => ?_
  · show OnceInv m (if _ then { s with processing := operationId :: s.processing } else s)
    split_ifs
    · exact { hi with }
    · exact hi
  · split_ifs
    · refine (once_acceptBrokeredGenuiResult env taskId operationId dispatchingRevision execution).bind
        (fun processed _ hown => ?_) fun _ _ hown => hown
      subst hown
      refine once_quiet (fun s m hi => ?_) fun _ => once_lift_bind (fun _ _ => rfl) fun _ _ => rfl
      unfold execBrokered
      dsimp only
      split
      · exact { hi with }
      · exact { hi.put _ with }
    · exact rfl

theorem once_runAuthorizedBrokeredMcpTool (env : RunEnv) (taskId : TaskId) (operationId : OperationId)
    (expectedRevision : Nat) (toolName proposalDigest : String) (arguments : Value) :
    OnceKeeping C D (runAuthorizedBrokeredMcpTool env taskId operationId expectedRevision toolName proposalDigest
      arguments) Nothing 0 := by
  unfold runAuthorizedBrokeredMcpTool
  refine once_lift_bind (fun _ _ => rfl) fun binding _ => ?_
  refine (once_dispatchOrRetry env binding taskId operationId expectedRevision).bind (fun dispatched _ hown => ?_)
    fun _ _ hown => hown
  subst hown
  cases dispatched with
  | inr execution => exact once_quiet (fun _ _ hi => { hi with }) fun _ => rfl
  | inl dispatchingRevision =>
      refine (once_executeBrokeredMcpTool env.digests taskId operationId dispatchingRevision binding.toolName
        binding.proposalDigest arguments env.executed).bind (fun execution _ hown => ?_) fun _ _ hown => hown
      subst hown
      refine (once_processExecution env binding taskId operationId dispatchingRevision execution).bind
        (fun execution _ hown => ?_) fun _ _ hown => hown
      subst hown
      refine Prog.Holds.bind (Q := Nothing) ?_ (fun _ _ hown => ?_) fun _ _ hown => hown
      · unfold finishExecution
        exact once_lift_bind (fun _ _ => rfl) fun _ _ => once_daemon_bind fun _ => rfl
      · subst hown
        exact once_quiet (fun _ _ hi => { hi with }) fun _ => rfl

theorem once_registerBrokeredMcpRuntime (taskId : TaskId) (created : Except String Unit) :
    OnceKeeping C D (registerBrokeredMcpRuntime taskId created) Nothing 0 := by
  unfold registerBrokeredMcpRuntime
  refine once_daemon_bind fun _ => once_lift_bind (fun _ _ => rfl) fun _ _ => ?_
  refine once_quiet (fun s m hi => ?_) fun inserted => once_lift _
  unfold execBrokered
  dsimp only
  split
  · exact hi
  · exact { hi with }

theorem once_unregisterBrokeredMcpRuntime (taskId : TaskId) :
    OnceKeeping C D (unregisterBrokeredMcpRuntime taskId) Nothing 0 := by
  unfold unregisterBrokeredMcpRuntime
  refine once_quiet (fun _ _ hi => { hi with }) fun runtime => ?_
  have hretain : OnceKeeping C D (BrokeredProg.own (.retain taskId)) Nothing 0 := by
    intro s rest hi _
    exact ⟨0, OnceInv.retain hi taskId, rfl⟩
  cases runtime with
  | none => exact hretain
  | some executor =>
      refine once_quiet (fun _ _ hi => { hi with }) fun _ => ?_
      exact once_quiet (fun _ _ hi => { hi with }) fun _ => hretain

theorem once_call {p : BrokeredProg Unit} (hcall : BrokeredCall p) : OnceKeeping C D p (fun _ _ => True) 0 := by
  cases hcall with
  | execute E taskId operationId expectedRevision toolName proposalDigest arguments executed =>
      exact (once_executeBrokeredMcpTool E taskId operationId expectedRevision toolName proposalDigest arguments
        executed).bind (fun _ _ _ => trivial) fun _ _ _ => trivial
  | run env taskId operationId expectedRevision toolName proposalDigest arguments =>
      exact (once_runAuthorizedBrokeredMcpTool env taskId operationId expectedRevision toolName proposalDigest
        arguments).bind (fun _ _ _ => trivial) fun _ _ _ => trivial
  | register taskId created =>
      exact (once_registerBrokeredMcpRuntime taskId created).weaken fun _ _ _ => trivial
  | unregister taskId => exact (once_unregisterBrokeredMcpRuntime taskId).weaken fun _ _ _ => trivial
  | request m => exact (once_daemon m).weaken fun _ _ _ => trivial

/-! ## Runs -/

instance ClaimedOnce.decidable : (op : BrokeredOp) → (s : BrokeredShared) → Decidable (ClaimedOnce op s)
  | .claim operationId, s =>
      inferInstanceAs (Decidable (s.executions.get? operationId = none →
        operationId ∉ s.executing ∧ operationId ∉ s.dropped))
  | .register .., _ | .getRuntime .., _ | .removeRuntime .., _ | .lockExecutor .., _ | .unlockExecutor .., _
  | .getCached .., _ | .execute .., _ | .insert .., _ | .retain .., _ | .getProcessed .., _ | .update .., _
  | .lockAcceptance, _ | .unlockAcceptance, _ | .returned .., _ => instDecidableTrue

def sampleExecute : BrokeredProg Unit :=
  (executeBrokeredMcpTool sampleCallDigests sampleTask sampleOperation 5 genuiCompile sampleSha256 .null
    sampleExecution).discard

/-- The tool of a dispatched operation is executed, its runtime unregistered and registered anew, and the tool is executed
again. -/
def sampleRequests : List (BrokeredProg Unit) :=
  sampleAuthorized ++ [daemon sampleBegin.discard, sampleExecute, unregisterBrokeredMcpRuntime sampleTask,
    registerBrokeredMcpRuntime sampleTask (.ok ()), sampleExecute]

def drySampleRequests (condition : BrokeredOp → BrokeredShared → Bool) (schedule : List Nat) :
    Option (SharedPool BrokeredOp BrokeredAns BrokeredError BrokeredShared) :=
  sharedDryRun sampleDigests execBrokered (brokeredCheck condition) .start sampleRequests schedule

theorem reaches_of_drySampleRequests {condition : BrokeredOp → BrokeredShared → Prop}
    {check : BrokeredOp → BrokeredShared → Bool} (hcheck : ∀ op s, check op s = true → condition op s)
    {schedule : List Nat} {pool' : BrokeredPool} (h : drySampleRequests check schedule = some pool')
    (hlen : pool'.state.authority.journal.events.length ≤ maxEventLineBytes) :
    ∃ C a a', openAuthority C sampleDigests (fun _ => .ok ()) a.journal.file = .ok a ∧
      Relation.ReflTransGen (BrokeredStep C sampleDigests BrokeredCall condition) ⟨⟨a, .start⟩, []⟩
        ⟨⟨a', pool'.state.own⟩, pool'.threads⟩ ∧ SameMemory a' pool'.state.authority := by
  refine reaches_of_sharedDryRun (fun op s a _ hop => allowed_of_brokeredCheck hcheck op s a hop)
    (fun p hp s => ⟨?_, rfl⟩) h hlen
  simp only [sampleRequests, sampleAuthorized, List.cons_append, List.nil_append, List.mem_cons, List.not_mem_nil,
    or_false] at hp
  rcases hp with rfl | rfl | rfl | rfl | rfl | rfl | rfl | rfl
  · exact .request _
  · exact .request _
  · exact .register ..
  · exact .request _
  · exact .execute ..
  · exact .unregister _
  · exact .register ..
  · exact .execute ..

end HyperTerm.Daemon.Brokered
