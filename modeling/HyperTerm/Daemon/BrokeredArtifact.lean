import HyperTerm.Daemon.BrokeredMcp

/-!
# One artifact an operation

Calls of `run_authorized_brokered_mcp_tool` for one operation, its first run and its retries, accept an artifact once, and
return what the receipt says, as long as a call that goes on from an execution goes on from the one in the cache, with
nobody on the way from there to accepting its artifact.

* `ArtifactSound` : what the journal and the calls say of the operation;
* `Stage` : where a call is, and what it knows since;
* `ArtifactInv` : the invariant, with the stages of all calls;
* `artifact_sound` : in every run within the condition the calls of the operation agree.
-/

namespace HyperTerm.Daemon.Brokered
open HyperTerm.Protocol HyperTerm.Core HyperTerm.Lib BrokeredProg

/-! ## What is said of an operation -/

def DomainEvent.artifact? : DomainEvent → Option AcceptedGenUiArtifact
  | .artifactAccepted artifact => some artifact
  | _ => none

def DomainEvent.receiptDigest? : DomainEvent → Option (Option String)
  | .operationReceipt _ _ _ _ _ digest => some digest
  | _ => none

/-- What the events of an operation say. -/
def ofOperation {β : Type} (read : DomainEvent → Option β) (operationId : OperationId) (events : List EventEnvelope) :
    List β :=
  events.filterMap fun event => if event.operationId = some operationId then read event.payload else none

/-- The artifacts accepted for an operation. -/
abbrev artifacts (operationId : OperationId) (events : List EventEnvelope) : List AcceptedGenUiArtifact :=
  ofOperation DomainEvent.artifact? operationId events

/-- The `result_digest`s of the receipts of an operation. -/
abbrev receipts (operationId : OperationId) (events : List EventEnvelope) : List (Option String) :=
  ofOperation DomainEvent.receiptDigest? operationId events

/-- One artifact is accepted at most, and every call returns the execution that every receipt has the digest of. -/
structure ArtifactSound (E : CallDigests) (operationId : OperationId) (s : Shared BrokeredShared) : Prop where
  artifact : (artifacts operationId s.authority.journal.events).length ≤ 1
  same : ∀ e e', (operationId, e) ∈ s.own.returned → (operationId, e') ∈ s.own.returned → e = e'
  receipted : ∀ e, (operationId, e) ∈ s.own.returned → receipts operationId s.authority.journal.events ≠ []
  digest : ∀ e, (operationId, e) ∈ s.own.returned → ∀ d ∈ receipts operationId s.authority.journal.events,
    ∃ digest, digestExecution E e = .ok digest ∧ d = some digest

/-- No call has run the operation yet. -/
structure Unrun (operationId : OperationId) (s : Shared BrokeredShared) : Prop where
  state : ∀ r, s.authority.operations.get operationId = some r →
    r.state ≠ .succeeded ∧ r.state ≠ .failed ∧ r.state ≠ .unknownExecution
  artifacts : artifacts operationId s.authority.journal.events = []
  receipts : receipts operationId s.authority.journal.events = []
  uncached : s.own.executions.get? operationId = none
  locked : s.own.locked = []
  processing : s.own.processing = []
  returned : s.own.returned = []

/-- The calls of one operation. -/
inductive RunCall (E : CallDigests) (operationId : OperationId) : BrokeredProg Unit → Prop
  | run (env : RunEnv) (taskId : TaskId) (expectedRevision : Nat) (toolName proposalDigest : String) (arguments : Value)
      (h : env.digests = E) :
      RunCall E operationId (runAuthorizedBrokeredMcpTool env taskId operationId expectedRevision toolName proposalDigest
        arguments).discard

/-- A call that goes on from an execution goes on from the one in the cache, and no other call is to accept its artifact. -/
def Steady : BrokeredOp → BrokeredShared → Prop
  | .getProcessed operationId execution _, s =>
      ((s.executions.get? operationId).map CachedBrokeredMcpExecution.execution = some execution) ∧
        operationId ∉ s.processing
  | _, _ => True

/-! ## The invariant -/

/-- The artifact of what is cached is one to accept. -/
def Accepts (cached : Option CachedBrokeredMcpExecution) : Prop :=
  ∃ c, cached = some c ∧ c.genuiArtifactProcessed = false ∧ c.toolName = genuiCompile ∧ c.execution.outcome = .succeeded

/-- What is cached stays as it is. -/
def Final (cached : Option CachedBrokeredMcpExecution) (execution : BrokeredMcpToolExecution) : Prop :=
  cached.map CachedBrokeredMcpExecution.execution = some execution ∧ ¬Accepts cached

/-- Where a call is, and what it knows since. -/
inductive Stage where
  | locked (executor : Nat)
  /-- Nothing is cached, and the call is to execute the tool. -/
  | claimed (executor : Nat)
  /-- The call is to accept the artifact of what is cached. -/
  | processing
  /-- The call has accepted it, and is to update the cache. -/
  | accepted
  /-- The call has ended with an error where it was to accept an artifact. -/
  | halted
  | final (execution : BrokeredMcpToolExecution)
  | receipted

namespace Stage

def executor? : Stage → Option Nat
  | .locked executor | .claimed executor => some executor
  | _ => none

def processes : Stage → Bool
  | .processing | .accepted | .halted => true
  | _ => false

/-- What a stage says of the cache and the journal. `executor` is that of the operation's task. -/
def Means (operationId : OperationId) (executor : Option Nat) (cached : Option CachedBrokeredMcpExecution)
    (events : List EventEnvelope) : Stage → Prop
  | .locked _ | .halted => True
  | .claimed taken => executor = some taken ∧ cached = none
  | .processing => Accepts cached ∧ artifacts operationId events = []
  | .accepted => Accepts cached
  | .final execution => Final cached execution
  | .receipted => receipts operationId events ≠ []

end Stage

/-- The executors whose locks are taken. -/
def executors (m : Multiset Stage) : Multiset Nat := m.filterMap Stage.executor?

/-- How many calls are to accept an artifact. -/
def processors (m : Multiset Stage) : Nat := m.countP fun stage => stage.processes

theorem executors_add (m m' : Multiset Stage) : executors (m + m') = executors m + executors m' :=
  Multiset.filterMap_add _ m m'

theorem executors_none {stage : Stage} (h : stage.executor? = none) : executors {stage} = 0 :=
  Multiset.filterMap_cons_none stage 0 h

theorem executors_some {stage : Stage} {executor : Nat} (h : stage.executor? = some executor) :
    executors {stage} = {executor} :=
  Multiset.filterMap_cons_some Stage.executor? stage 0 h

theorem processors_add (m m' : Multiset Stage) : processors (m + m') = processors m + processors m' :=
  Multiset.countP_add _ m m'

theorem processors_singleton (stage : Stage) : processors {stage} = if stage.processes then 1 else 0 := by
  show Multiset.countP (fun stage => stage.processes = true) (stage ::ₘ 0) = _
  rw [Multiset.countP_cons, Multiset.countP_zero, zero_add]

/-- The task of the operation, and the runtimes. -/
structure Fixed where
  operationId : OperationId
  taskId : TaskId
  runtimes : TaskId → Option Nat

def OperationState.completed (state : OperationState) : Prop :=
  state = .succeeded ∨ state = .failed ∨ state = .unknownExecution

structure ArtifactInv (E : CallDigests) (F : Fixed) (m : Multiset Stage) (s : Shared BrokeredShared) : Prop where
  runtimes : s.own.runtimes = F.runtimes
  task : ∀ r, s.authority.operations.get F.operationId = some r → r.taskId = F.taskId
  locked : (s.own.locked : Multiset Nat) = executors m
  locks : s.own.locked.Nodup
  processing : s.own.processing.count F.operationId = processors m
  alone : processors m ≤ 1
  means : ∀ stage ∈ m, stage.Means F.operationId (F.runtimes F.taskId) (s.own.executions.get? F.operationId)
    s.authority.journal.events
  artifact : (artifacts F.operationId s.authority.journal.events).length ≤ 1
  unaccepted : artifacts F.operationId s.authority.journal.events = [] ∨ .accepted ∈ m ∨
    ∃ c, s.own.executions.get? F.operationId = some c ∧ c.genuiArtifactProcessed = true
  receipts : ∀ d ∈ receipts F.operationId s.authority.journal.events, ∃ e digest,
    Final (s.own.executions.get? F.operationId) e ∧ digestExecution E e = .ok digest ∧ d = some digest
  returned : ∀ e, (F.operationId, e) ∈ s.own.returned → Final (s.own.executions.get? F.operationId) e ∧
    Brokered.receipts F.operationId s.authority.journal.events ≠ []
  completed : ∀ r, s.authority.operations.get F.operationId = some r → OperationState.completed r.state →
    Brokered.receipts F.operationId s.authority.journal.events ≠ []

variable {E : CallDigests} {F : Fixed} {m rest own : Multiset Stage} {s : Shared BrokeredShared}
  {C : LineCodec EventEnvelope} {D : Digests} {α β : Type} {cached : Option CachedBrokeredMcpExecution}
  {events : List EventEnvelope}

theorem Final.unique {e e' : BrokeredMcpToolExecution} (h : Final cached e) (h' : Final cached e') : e = e' :=
  Option.some.inj (h.1.symm.trans h'.1)

theorem Final.ne_none {e : BrokeredMcpToolExecution} (h : Final cached e) : cached ≠ none := by
  rintro rfl
  exact nomatch h.1

namespace ArtifactInv

theorem start {r : OperationRecord} (hget : s.authority.operations.get r.operationId = some r)
    (h : Unrun r.operationId s) : ArtifactInv E ⟨r.operationId, r.taskId, s.own.runtimes⟩ 0 s where
  runtimes := rfl
  task r' hget' := by rw [Option.some.inj (hget.symm.trans hget')]
  locked := by rw [h.locked]; rfl
  locks := h.locked ▸ List.nodup_nil
  processing := by rw [h.processing]; rfl
  alone := Nat.zero_le 1
  means stage hmem := absurd hmem (Multiset.notMem_zero stage)
  artifact := by rw [h.artifacts]; exact Nat.zero_le 1
  unaccepted := Or.inl h.artifacts
  receipts d hmem := by rw [h.receipts] at hmem; exact absurd hmem List.not_mem_nil
  returned e hmem := by rw [h.returned] at hmem; exact absurd hmem List.not_mem_nil
  completed r' hget' hstate := by
    obtain ⟨hsucceeded, hfailed, hunknown⟩ := h.state r' hget'
    obtain hstate | hstate | hstate := hstate
    · exact absurd hstate hsucceeded
    · exact absurd hstate hfailed
    · exact absurd hstate hunknown

theorem sound (h : ArtifactInv E F m s) : ArtifactSound E F.operationId s where
  artifact := h.artifact
  same e e' he he' := (h.returned e he).1.unique (h.returned e' he').1
  receipted e he := (h.returned e he).2
  digest e he d hd := by
    obtain ⟨e', digest, hfinal, hdigest, rfl⟩ := h.receipts d hd
    obtain rfl := (h.returned e he).1.unique hfinal
    exact ⟨digest, hdigest, rfl⟩

/-- What the invariant reads of a state. -/
structure SameView (operationId : OperationId) (s s' : Shared BrokeredShared) : Prop where
  events : s'.authority.journal.events = s.authority.journal.events
  operations : s'.authority.operations = s.authority.operations
  runtimes : s'.own.runtimes = s.own.runtimes
  locked : s'.own.locked = s.own.locked
  cached : s'.own.executions.get? operationId = s.own.executions.get? operationId
  processing : s'.own.processing = s.own.processing
  returned : s'.own.returned = s.own.returned

theorem congr {s' : Shared BrokeredShared} (h : ArtifactInv E F m s) (hsame : SameView F.operationId s s') :
    ArtifactInv E F m s' := by
  obtain ⟨hevents, hoperations, hruntimes, hlocked, hcached, hprocessing, hreturned⟩ := hsame
  obtain ⟨h₁, h₂, h₃, h₄, h₅, h₆, h₇, h₈, h₉, h₁₀, h₁₁, h₁₂⟩ := h
  rw [← hevents, ← hcached] at h₇ h₉ h₁₀ h₁₁
  rw [← hevents] at h₈ h₁₂
  rw [← hreturned] at h₁₁
  exact ⟨hruntimes ▸ h₁, hoperations ▸ h₂, hlocked ▸ h₃, hlocked ▸ h₄, hprocessing ▸ h₅, h₆, h₇, h₈, h₉, h₁₀, h₁₁,
    hoperations ▸ h₁₂⟩

/-! ### What a call knows -/

/-- A stage that takes no lock and accepts nothing. -/
def Knows (stage : Stage) : Prop := stage.executor? = none ∧ stage.processes = false

theorem executors_knows {stage : Stage} (h : Knows stage) : executors (m + {stage}) = executors m := by
  rw [executors_add, executors_none h.1, add_zero]

theorem processors_knows {stage : Stage} (h : Knows stage) : processors (m + {stage}) = processors m := by
  rw [processors_add, processors_singleton, h.2, if_neg Bool.false_ne_true, add_zero]

theorem learn {stage : Stage} (h : ArtifactInv E F m s) (hknows : Knows stage)
    (hmeans : stage.Means F.operationId (F.runtimes F.taskId) (s.own.executions.get? F.operationId)
      s.authority.journal.events) : ArtifactInv E F (m + {stage}) s := by
  refine { h with
    locked := (executors_knows hknows).symm ▸ h.locked, processing := (processors_knows hknows).symm ▸ h.processing,
    alone := (processors_knows hknows).symm ▸ h.alone, means := fun stage' hmem => ?_, unaccepted := ?_ }
  · obtain hold | hnew := Multiset.mem_add.mp hmem
    · exact h.means stage' hold
    · rw [Multiset.mem_singleton.mp hnew]
      exact hmeans
  · exact h.unaccepted.imp_right fun h => h.imp_left fun h => Multiset.mem_add.mpr (Or.inl h)

theorem forget {stage : Stage} (h : ArtifactInv E F (m + {stage}) s) (hknows : Knows stage) : ArtifactInv E F m s := by
  refine { h with
    locked := executors_knows hknows ▸ h.locked, processing := processors_knows hknows ▸ h.processing,
    alone := processors_knows hknows ▸ h.alone,
    means := fun stage' hmem => h.means stage' (Multiset.mem_add.mpr (Or.inl hmem)), unaccepted := ?_ }
  refine h.unaccepted.imp_right fun h => h.imp_left fun h => ?_
  refine (Multiset.mem_add.mp h).resolve_right fun h => ?_
  rw [← Multiset.mem_singleton.mp h] at hknows
  exact nomatch hknows.2

/-! ### The executor's lock -/

theorem lockExecutor {executor : Nat} (h : ArtifactInv E F m s) (hfree : executor ∉ s.own.locked) :
    ArtifactInv E F (m + {.locked executor}) { s with own := { s.own with locked := executor :: s.own.locked } } := by
  have hprocessors : processors (m + {.locked executor}) = processors m := by
    rw [processors_add, processors_singleton]
    rfl
  refine { h with
    locked := ?_, locks := List.nodup_cons.mpr ⟨hfree, h.locks⟩, processing := hprocessors ▸ h.processing,
    alone := hprocessors ▸ h.alone, means := fun stage hmem => ?_, unaccepted := ?_ }
  · show ((executor :: s.own.locked : List Nat) : Multiset Nat) = _
    rw [executors_add, executors_some rfl, ← h.locked, ← Multiset.cons_coe, add_comm, Multiset.singleton_add]
  · obtain hold | hnew := Multiset.mem_add.mp hmem
    · exact h.means stage hold
    · rw [Multiset.mem_singleton.mp hnew]
      trivial
  · exact h.unaccepted.imp_right fun h => h.imp_left fun h => Multiset.mem_add.mpr (Or.inl h)

theorem unlockExecutor {executor : Nat} (h : ArtifactInv E F (m + {.locked executor}) s) :
    ArtifactInv E F m { s with own := { s.own with locked := s.own.locked.erase executor } } := by
  have hprocessors : processors (m + {.locked executor}) = processors m := by
    rw [processors_add, processors_singleton]
    rfl
  refine { h with
    locked := ?_, locks := h.locks.erase executor, processing := hprocessors ▸ h.processing,
    alone := hprocessors ▸ h.alone, means := fun stage hmem => h.means stage (Multiset.mem_add.mpr (Or.inl hmem)),
    unaccepted := ?_ }
  · show ((s.own.locked.erase executor : List Nat) : Multiset Nat) = _
    rw [← Multiset.coe_erase, h.locked, executors_add, executors_some rfl, add_comm, Multiset.singleton_add,
      Multiset.erase_cons_head]
  · refine h.unaccepted.imp_right fun h => h.imp_left fun h => ?_
    exact (Multiset.mem_add.mp h).resolve_right fun h => nomatch Multiset.mem_singleton.mp h

/-- A call that holds the lock exchanges what it knows. -/
theorem holding {stage stage' : Stage} {executor : Nat} (h : ArtifactInv E F (m + {stage}) s)
    (hstage : stage.executor? = some executor ∧ stage.processes = false)
    (hstage' : stage'.executor? = some executor ∧ stage'.processes = false)
    (hmeans : stage'.Means F.operationId (F.runtimes F.taskId) (s.own.executions.get? F.operationId)
      s.authority.journal.events) : ArtifactInv E F (m + {stage'}) s := by
  have hexecutors : executors (m + {stage}) = executors (m + {stage'}) := by
    rw [executors_add, executors_add, executors_some hstage.1, executors_some hstage'.1]
  have hprocessors : processors (m + {stage}) = processors (m + {stage'}) := by
    rw [processors_add, processors_add, processors_singleton, processors_singleton, hstage.2, hstage'.2]
  refine { h with
    locked := hexecutors ▸ h.locked, processing := hprocessors ▸ h.processing, alone := hprocessors ▸ h.alone,
    means := fun stage hmem => ?_, unaccepted := ?_ }
  · obtain hold | hnew := Multiset.mem_add.mp hmem
    · exact h.means stage (Multiset.mem_add.mpr (Or.inl hold))
    · rw [Multiset.mem_singleton.mp hnew]
      exact hmeans
  · refine h.unaccepted.imp_right fun h => h.imp_left fun h => Multiset.mem_add.mpr (Or.inl ?_)
    refine (Multiset.mem_add.mp h).resolve_right fun h => ?_
    rw [← Multiset.mem_singleton.mp h] at hstage
    exact nomatch hstage.2

/-- While what is cached may still change, nothing has come of it. -/
theorem unfinished (h : ArtifactInv E F m s) (hnone : ∀ e, ¬Final (s.own.executions.get? F.operationId) e) :
    Brokered.receipts F.operationId s.authority.journal.events = [] ∧ ∀ e, (F.operationId, e) ∉ s.own.returned := by
  refine ⟨List.eq_nil_iff_forall_not_mem.mpr fun d hd => ?_, fun e he => hnone e (h.returned e he).1⟩
  obtain ⟨e, -, hfinal, -⟩ := h.receipts d hd
  exact hnone e hfinal

/-- The execution of the only call that is to execute the tool is cached. -/
theorem insert {c : CachedBrokeredMcpExecution} {executor : Nat} (h : ArtifactInv E F (m + {.claimed executor}) s)
    (hid : c.operationId = F.operationId) :
    ArtifactInv E F (m + {.locked executor}) { s with
      own := { s.own with
        executions := s.own.executions.put c
        executing := s.own.executing.erase c.operationId } } := by
  obtain ⟨hexecutor, hnone⟩ := h.means (.claimed executor) (Multiset.mem_add.mpr (Or.inr (Multiset.mem_singleton_self _)))
  have hlocked : ArtifactInv E F (m + {.locked executor}) s := h.holding ⟨rfl, rfl⟩ ⟨rfl, rfl⟩ trivial
  have hcached : (s.own.executions.put c).get? F.operationId = some c := by rw [Keyed.get?_put, if_pos hid.symm]
  obtain ⟨hreceipts, hreturned⟩ := h.unfinished fun e hfinal => hfinal.ne_none hnone
  have hunlocked : executor ∉ executors m := by
    have hnodup := h.locks
    rw [← Multiset.coe_nodup, h.locked, executors_add, executors_some rfl, Multiset.nodup_add] at hnodup
    exact Multiset.disjoint_singleton.mp hnodup.2.2
  have hmeans : ∀ stage ∈ m + {.locked executor}, stage.Means F.operationId (F.runtimes F.taskId) (some c)
      s.authority.journal.events := by
    intro stage hmem
    have hold := hlocked.means stage hmem
    cases stage with
    | locked _ => trivial
    | halted => trivial
    | receipted => exact hold
    | claimed taken =>
        obtain rfl := Option.some.inj (hexecutor.symm.trans hold.1)
        have hmem' : .claimed executor ∈ m := (Multiset.mem_add.mp hmem).resolve_right fun h =>
          nomatch Multiset.mem_singleton.mp h
        exact absurd ((Multiset.mem_filterMap Stage.executor? m).mpr ⟨_, hmem', rfl⟩) hunlocked
    | processing =>
        obtain ⟨⟨c', hc', -⟩, -⟩ := hold
        exact absurd (hnone.symm.trans hc') (Option.some_ne_none c').symm
    | accepted =>
        obtain ⟨c', hc', -⟩ := hold
        exact absurd (hnone.symm.trans hc') (Option.some_ne_none c').symm
    | final e => exact absurd hnone (Final.ne_none hold)
  have haccepted : .accepted ∉ m + {.locked executor} := by
    intro hmem
    obtain ⟨c', hc', -⟩ := hlocked.means .accepted hmem
    exact absurd (hnone.symm.trans hc') (Option.some_ne_none c').symm
  have hartifacts : artifacts F.operationId s.authority.journal.events = [] := by
    obtain hnil | hmem | ⟨c', hc', -⟩ := hlocked.unaccepted
    · exact hnil
    · exact absurd hmem haccepted
    · exact absurd (hnone.symm.trans hc') (Option.some_ne_none c').symm
  refine { hlocked with
    means := hcached.symm ▸ hmeans, unaccepted := Or.inl hartifacts, receipts := fun d hd => ?_,
    returned := fun e he => absurd he (hreturned e) }
  rw [hreceipts] at hd
  exact absurd hd List.not_mem_nil

/-! ### The artifact -/

/-- With nobody else to accept an artifact, a call begins to. -/
theorem process {stage : Stage} (h : ArtifactInv E F m s) (hfree : F.operationId ∉ s.own.processing)
    (hstage : stage.executor? = none ∧ stage.processes = true)
    (hmeans : stage.Means F.operationId (F.runtimes F.taskId) (s.own.executions.get? F.operationId)
      s.authority.journal.events) :
    ArtifactInv E F (m + {stage}) { s with own := { s.own with processing := F.operationId :: s.own.processing } } := by
  have hnobody : processors m = 0 := h.processing.symm.trans (List.count_eq_zero_of_not_mem hfree)
  have hprocessors : processors (m + {stage}) = 1 := by
    rw [processors_add, processors_singleton, hnobody, hstage.2]
    rfl
  refine { h with
    locked := ?_, processing := ?_, alone := hprocessors.le, means := fun stage' hmem => ?_, unaccepted := ?_ }
  · rw [executors_add, executors_none hstage.1, add_zero]
    exact h.locked
  · show (F.operationId :: s.own.processing).count F.operationId = _
    rw [List.count_cons_self, h.processing, hnobody, hprocessors]
  · obtain hold | hnew := Multiset.mem_add.mp hmem
    · exact h.means stage' hold
    · rw [Multiset.mem_singleton.mp hnew]
      exact hmeans
  · exact h.unaccepted.imp_right fun h => h.imp_left fun h => Multiset.mem_add.mpr (Or.inl h)

/-- Nobody else is to accept an artifact. -/
theorem alone_of {stage : Stage} (h : ArtifactInv E F (m + {stage}) s) (hstage : stage.processes = true) :
    ∀ stage' ∈ m, stage'.processes = false := by
  have halone := h.alone
  rw [processors_add, processors_singleton, if_pos hstage] at halone
  have hnobody : processors m = 0 := Nat.le_zero.mp (Nat.le_of_succ_le_succ halone)
  intro stage' hmem
  exact Bool.eq_false_iff.mpr (Multiset.countP_eq_zero.mp hnobody stage' hmem)

/-- What is cached is replaced by the execution with its artifact accepted or rejected. -/
theorem update {stage : Stage} {c : CachedBrokeredMcpExecution} {execution : BrokeredMcpToolExecution}
    (h : ArtifactInv E F (m + {stage}) s) (hstage : stage = .processing ∨ stage = .accepted)
    (hcached : s.own.executions.get? F.operationId = some c) :
    ArtifactInv E F (m + {.final execution}) { s with
      own := { s.own with
        executions := s.own.executions.put { c with execution, genuiArtifactProcessed := true }
        processing := s.own.processing.erase F.operationId } } := by
  have hprocesses : stage.executor? = none ∧ stage.processes = true := by
    obtain rfl | rfl := hstage
    · exact ⟨rfl, rfl⟩
    · exact ⟨rfl, rfl⟩
  have haccepts : Accepts (some c) := by
    have hmeans := h.means stage (Multiset.mem_add.mpr (Or.inr (Multiset.mem_singleton_self _)))
    rw [hcached] at hmeans
    obtain rfl | rfl := hstage
    · exact hmeans.1
    · exact hmeans
  have hothers := h.alone_of hprocesses.2
  have hid : c.operationId = F.operationId := Keyed.key_eq_of_get? hcached
  have hput : (s.own.executions.put { c with execution, genuiArtifactProcessed := true }).get? F.operationId =
      some { c with execution, genuiArtifactProcessed := true } := by
    rw [Keyed.get?_put, if_pos hid.symm]
  have hfinal : Final (some { c with execution, genuiArtifactProcessed := true }) execution := by
    refine ⟨rfl, ?_⟩
    rintro ⟨c', hc', hunprocessed, -⟩
    obtain rfl := Option.some.inj hc'
    exact nomatch hunprocessed
  obtain ⟨hreceipts, hreturned⟩ := h.unfinished fun e hold => (hcached ▸ hold).2 haccepts
  have hmeans : ∀ stage' ∈ m + {.final execution}, stage'.Means F.operationId (F.runtimes F.taskId)
      (some { c with execution, genuiArtifactProcessed := true }) s.authority.journal.events := by
    intro stage' hmem
    obtain hmem | hnew := Multiset.mem_add.mp hmem
    · have hold := h.means stage' (Multiset.mem_add.mpr (Or.inl hmem))
      have hother := hothers stage' hmem
      cases stage' with
      | locked _ => trivial
      | halted => trivial
      | receipted => exact hold
      | claimed taken => exact absurd (hcached.symm.trans hold.2) (Option.some_ne_none c)
      | processing => exact nomatch hother
      | accepted => exact nomatch hother
      | final e => exact absurd haccepts (hcached ▸ hold : Final (some c) e).2
    · rw [Multiset.mem_singleton.mp hnew]
      exact hfinal
  have hprocessing : s.own.processing.count F.operationId = processors m + 1 := by
    rw [h.processing, processors_add, processors_singleton, if_pos hprocesses.2]
  have hprocessors : processors (m + {.final execution}) = processors m := by
    rw [processors_add, processors_singleton]
    rfl
  refine { h with
    locked := ?_, processing := ?_, alone := ?_, means := hput.symm ▸ hmeans
    unaccepted := Or.inr (Or.inr ⟨_, hput, rfl⟩), receipts := fun d hd => ?_
    returned := fun e he => absurd he (hreturned e) }
  · have hlocked := h.locked
    rw [executors_add, executors_none hprocesses.1] at hlocked
    rw [executors_add, executors_none rfl]
    exact hlocked
  · show (s.own.processing.erase F.operationId).count F.operationId = _
    rw [List.count_erase_self, hprocessing, hprocessors]
    rfl
  · have halone := h.alone
    rw [processors_add] at halone
    rw [hprocessors]
    exact (Nat.le_add_right _ _).trans halone
  · rw [hreceipts] at hd
    exact absurd hd List.not_mem_nil

/-- A call returns what is cached, after its receipt. -/
theorem returns {execution : BrokeredMcpToolExecution} (h : ArtifactInv E F m s)
    (hfinal : Final (s.own.executions.get? F.operationId) execution)
    (hreceipted : Brokered.receipts F.operationId s.authority.journal.events ≠ []) :
    ArtifactInv E F m { s with own := { s.own with returned := (F.operationId, execution) :: s.own.returned } } := by
  refine { h with returned := fun e he => ?_ }
  obtain heq | hold := List.mem_cons.mp he
  · rw [(Prod.mk.inj heq).2]
    exact ⟨hfinal, hreceipted⟩
  · exact h.returned e hold

/-! ### The journal -/

/-- An event of the operation is journalled. -/
theorem journal {a : AuthorityState} {envelope : EventEnvelope} {m' : Multiset Stage} (h : ArtifactInv E F m s)
    (hevents : a.journal.events = s.authority.journal.events ++ [envelope])
    (htask : ∀ r, a.operations.get F.operationId = some r → r.taskId = F.taskId)
    (hexecutors : executors m' = executors m) (hprocessors : processors m' = processors m)
    (hmeans : ∀ stage ∈ m', stage.Means F.operationId (F.runtimes F.taskId) (s.own.executions.get? F.operationId)
      a.journal.events)
    (hartifact : (artifacts F.operationId a.journal.events).length ≤ 1)
    (hunaccepted : artifacts F.operationId a.journal.events = [] ∨ .accepted ∈ m' ∨
      ∃ c, s.own.executions.get? F.operationId = some c ∧ c.genuiArtifactProcessed = true)
    (hreceipts : ∀ d ∈ Brokered.receipts F.operationId [envelope], ∃ e digest,
      Final (s.own.executions.get? F.operationId) e ∧ digestExecution E e = .ok digest ∧ d = some digest)
    (hcompleted : ∀ r, a.operations.get F.operationId = some r → OperationState.completed r.state →
      Brokered.receipts F.operationId a.journal.events ≠ []) :
    ArtifactInv E F m' { s with authority := a } := by
  have happend : Brokered.receipts F.operationId a.journal.events =
      Brokered.receipts F.operationId s.authority.journal.events ++ Brokered.receipts F.operationId [envelope] := by
    rw [hevents]
    exact List.filterMap_append
  refine ⟨h.runtimes, htask, hexecutors ▸ h.locked, h.locks, hprocessors ▸ h.processing, hprocessors ▸ h.alone, hmeans,
    hartifact, hunaccepted, fun d hd => ?_, fun e he => ?_, hcompleted⟩
  · rw [happend] at hd
    obtain hold | hnew := List.mem_append.mp hd
    · exact h.receipts d hold
    · exact hreceipts d hnew
  · refine ⟨(h.returned e he).1, ?_⟩
    rw [happend]
    exact List.append_ne_nil_of_left_ne_nil (h.returned e he).2 _

end ArtifactInv

/-- What is read of the events of an operation is read of an event more. -/
theorem ofOperation_append {read : DomainEvent → Option β} {operationId : OperationId} {envelope : EventEnvelope}
    (hid : envelope.operationId = some operationId) :
    ofOperation read operationId (events ++ [envelope]) =
      ofOperation read operationId events ++ (read envelope.payload).toList := by
  unfold ofOperation
  rw [List.filterMap_append]
  congr 1
  cases hread : read envelope.payload with
  | none => rw [List.filterMap_cons_none (by rw [if_pos hid, hread])]; rfl
  | some b => rw [List.filterMap_cons_some (by rw [if_pos hid, hread])]; rfl

theorem ofOperation_singleton {read : DomainEvent → Option β} {operationId : OperationId} {envelope : EventEnvelope}
    (hid : envelope.operationId = some operationId) :
    ofOperation read operationId [envelope] = (read envelope.payload).toList := by
  rw [← List.nil_append [envelope], ofOperation_append hid]
  exact List.nil_append _

/-! ## The methods of the daemon -/

/-- A thread of an operation's calls keeps the invariant with a method of the daemon. -/
abbrev ArtifactMethod (C : LineCodec EventEnvelope) (D : Digests) (E : CallDigests) (F : Fixed) (method : Method α)
    (post : Except DaemonError α → Multiset Stage → Prop) (own : Multiset Stage) : Prop :=
  method.Holds (execBeside C D) (fun _ _ => True) (ArtifactInv E F) post own

section Methods

open Method

theorem method_lift_bind {r : Except DaemonError β} {f : β → Method α} {post : Except DaemonError α → Multiset Stage → Prop}
    (herr : ∀ e, post (.error e) own) (hok : ∀ b, r = .ok b → ArtifactMethod C D E F (f b) post own) :
    ArtifactMethod C D E F (lift r >>= f) post own := by
  cases r with
  | ok b => exact hok b rfl
  | error e => exact herr e

theorem method_ensure_bind {p : Prop} [Decidable p] {e : DaemonError} {f : Unit → Method α}
    {post : Except DaemonError α → Multiset Stage → Prop} (herr : ∀ e, post (.error e) own)
    (hok : p → ArtifactMethod C D E F (f ()) post own) : ArtifactMethod C D E F (ensure p e >>= f) post own := by
  refine method_lift_bind herr fun _ hp => hok ?_
  split_ifs at hp with h
  exact h

theorem method_operation {post : Except DaemonError OperationRecord → Multiset Stage → Prop}
    (h : ∀ r, (∀ x, r = .ok x → x.taskId = F.taskId) → post r own) :
    ArtifactMethod C D E F (operation F.operationId) post own :=
  fun _ _ hi _ => ⟨own, hi, h _ fun x hx => hi.task x (okOr_eq_ok.mp hx)⟩

theorem method_operation_bind {f : OperationRecord → Method α} {post : Except DaemonError α → Multiset Stage → Prop}
    (herr : ∀ e, post (.error e) own)
    (hok : ∀ r, r.taskId = F.taskId → ArtifactMethod C D E F (f r) post own) :
    ArtifactMethod C D E F (operation F.operationId >>= f) post own := by
  have hread : ArtifactMethod C D E F (operation F.operationId)
      (fun r own' => own' = own ∧ ∀ x, r = .ok x → x.taskId = F.taskId) own :=
    method_operation fun r hr => ⟨rfl, hr⟩
  refine hread.bind (fun r own' hown => ?_) fun e own' hown => ?_
  · rw [hown.1]
    exact hok r (hown.2 r rfl)
  · rw [hown.1]
    exact herr e

/-- An event of the operation is refused without a trace, or journalled and applied. -/
theorem method_record {env : RecordEnv} {taskId : TaskId} {payload : DomainEvent}
    {post : Except DaemonError Unit → Multiset Stage → Prop} (herr : ∀ e, post (.error e) own)
    (hok : ∀ s rest envelope a, ArtifactInv E F (rest + own) s → envelope.payload = payload →
      envelope.operationId = some F.operationId → a.journal.events = s.authority.journal.events ++ [envelope] →
      s.authority.operations.Change envelope a.operations →
      ∃ own', ArtifactInv E F (rest + own') { s with authority := a } ∧ post (.ok ()) own') :
    ArtifactMethod C D E F (record env (operationEvent taskId F.operationId payload)) post own := by
  intro s rest hi _
  have hout := s.authority.record_outcome (C := C) (D := D) env (operationEvent taskId F.operationId payload)
  change ∃ own', ArtifactInv E F (rest + own')
      { s with authority := (s.authority.record C D env (operationEvent taskId F.operationId payload)).1 } ∧
    post ((s.authority.record C D env (operationEvent taskId F.operationId payload)).2.map fun _ => ()) own'
  generalize (s.authority.record C D env (operationEvent taskId F.operationId payload)).1 = a,
    (s.authority.record C D env (operationEvent taskId F.operationId payload)).2 = result at hout ⊢
  cases hout with
  | refused e => exact ⟨own, hi, herr e⟩
  | ioFailed file hio => exact ⟨own, hi.congr ⟨rfl, rfl, rfl, rfl, rfl, rfl, rfl⟩, herr _⟩
  | recorded envelope operations projector patch henv htask hops hproj hio hlen =>
      exact hok s rest envelope _ hi henv.payload henv.operationId rfl (OperationReducer.apply_cases hops)

/-- An event that does not move an operation leaves the records as they are. -/
theorem same_of_change {operations operations' : OperationReducer} {envelope : EventEnvelope}
    (hchange : operations.Change envelope operations') (h : DomainEvent.drivesOperation envelope.payload = false) :
    operations' = operations := by
  cases hchange with
  | proposed _ _ _ _ _ _ hp => rw [hp] at h; exact nomatch h
  | moved _ _ _ _ hp => rw [hp] at h; exact nomatch h
  | requested => rfl
  | decided _ _ _ hp => rw [hp] at h; exact nomatch h
  | other => rfl

/-- The operation moves, to its end only after a receipt. -/
theorem method_transition {env : RecordEnv} {taskId : TaskId} {expectedRevision : Nat} {toState : OperationState}
    {actor : Actor} {reason : Option String} {post : Except DaemonError OperationRecord → Multiset Stage → Prop}
    (hreceipted : OperationState.completed toState → .receipted ∈ own) (h : ∀ r, post r own) :
    ArtifactMethod C D E F (transition env taskId F.operationId expectedRevision toState actor reason) post own := by
  unfold transition
  refine method_operation_bind (fun e => h _) fun current _ => method_lift_bind (fun e => h _) fun _ _ => ?_
  have hmove : ArtifactMethod C D E F (record env (operationEvent taskId F.operationId
      (.operationStateChanged (expectedRevision + 1) current.state toState actor reason))) (fun _ own' => own' = own) own := by
    refine method_record (fun _ => rfl) fun s rest envelope a hi hpayload hid hevents hchange => ⟨own, ?_, rfl⟩
    obtain ⟨r, hrid, hget, -, -, -, hput⟩ := accepted_stateChanged hpayload hid hchange
    have hget' : a.operations.get F.operationId = some { r with revision := r.revision + 1, state := toState } := by
      rw [hput, OperationReducer.get_put, if_pos hrid.symm]
    have hartifacts : artifacts F.operationId a.journal.events = artifacts F.operationId s.authority.journal.events := by
      rw [artifacts, hevents, ofOperation_append hid, hpayload]
      exact List.append_nil _
    have hreceipts : receipts F.operationId a.journal.events = receipts F.operationId s.authority.journal.events := by
      rw [receipts, hevents, ofOperation_append hid, hpayload]
      exact List.append_nil _
    refine hi.journal hevents (fun r' hr' => ?_) rfl rfl (fun stage hmem => ?_) (hartifacts ▸ hi.artifact)
      (hartifacts ▸ hi.unaccepted) (fun d hd => ?_) fun r' hr' hcompleted => ?_
    · obtain rfl := Option.some.inj (hget'.symm.trans hr')
      exact hi.task r hget
    · have hold := hi.means stage hmem
      cases stage with
      | processing => exact ⟨hold.1, hartifacts.trans hold.2⟩
      | receipted => exact fun hnil => hold (hreceipts.symm.trans hnil)
      | _ => exact hold
    · rw [receipts, ofOperation_singleton hid, hpayload] at hd
      exact absurd hd List.not_mem_nil
    · obtain rfl := Option.some.inj (hget'.symm.trans hr')
      have hmem : .receipted ∈ rest + own := Multiset.mem_add.mpr (Or.inr (hreceipted hcompleted))
      rw [hreceipts]
      exact hi.means .receipted hmem
  refine hmove.bind (fun _ own' hown => ?_) fun e own' hown => ?_
  · rw [hown]
    exact method_operation fun r _ => h r
  · rw [hown]
    exact h _

theorem method_beginOperation {env : RecordEnv} {taskId : TaskId} {expectedRevision : Nat}
    {post : Except DaemonError OperationRecord → Multiset Stage → Prop} (h : ∀ r, post r own) :
    ArtifactMethod C D E F (beginOperation env taskId F.operationId expectedRevision) post own := by
  unfold beginOperation
  refine method_operation_bind (fun e => h _) fun current _ => method_lift_bind (fun e => h _) fun _ _ => ?_
  refine method_ensure_bind (fun e => h _) fun _ => method_ensure_bind (fun e => h _) fun _ => ?_
  exact method_transition (fun hcompleted => by rcases hcompleted with h | h | h <;> cases h) h

/-- An artifact is accepted by the only call that is to accept one. -/
theorem accepted_journalled {a : AuthorityState} {envelope : EventEnvelope} {accepted : AcceptedGenUiArtifact}
    (hi : ArtifactInv E F (m + {.processing}) s) (hpayload : envelope.payload = .artifactAccepted accepted)
    (hid : envelope.operationId = some F.operationId)
    (hevents : a.journal.events = s.authority.journal.events ++ [envelope])
    (hchange : s.authority.operations.Change envelope a.operations) :
    ArtifactInv E F (m + {.accepted}) { s with authority := a } := by
  have hsame := same_of_change hchange (hpayload ▸ rfl)
  obtain ⟨haccepts, hnone⟩ := hi.means .processing (Multiset.mem_add.mpr (Or.inr (Multiset.mem_singleton_self _)))
  have hartifacts : artifacts F.operationId a.journal.events = [accepted] := by
    rw [artifacts, hevents, ofOperation_append hid, hpayload]
    show artifacts F.operationId s.authority.journal.events ++ [accepted] = [accepted]
    rw [hnone]
    rfl
  have hreceipts : receipts F.operationId a.journal.events = receipts F.operationId s.authority.journal.events := by
    rw [receipts, hevents, ofOperation_append hid, hpayload]
    exact List.append_nil _
  have hothers := hi.alone_of rfl
  have hmem : .accepted ∈ m + {.accepted} := Multiset.mem_add.mpr (Or.inr (Multiset.mem_singleton_self _))
  refine hi.journal hevents (hsame ▸ hi.task) ?_ ?_ (fun stage hstage => ?_) ?_ (Or.inr (Or.inl hmem)) (fun d hd => ?_)
    (hreceipts.symm ▸ hsame ▸ hi.completed)
  · rw [executors_add, executors_add, executors_none rfl, executors_none rfl]
  · rw [processors_add, processors_add, processors_singleton, processors_singleton]
    rfl
  · obtain hold | hnew := Multiset.mem_add.mp hstage
    · have hmeans := hi.means stage (Multiset.mem_add.mpr (Or.inl hold))
      have hother := hothers stage hold
      cases stage with
      | processing => exact nomatch hother
      | receipted => exact fun hnil => hmeans (hreceipts.symm.trans hnil)
      | _ => exact hmeans
    · rw [Multiset.mem_singleton.mp hnew]
      exact haccepts
  · rw [hartifacts]
    exact le_refl 1
  · rw [receipts, ofOperation_singleton hid, hpayload] at hd
    exact absurd hd List.not_mem_nil

theorem method_acceptLocked (env : RunEnv) (taskId : TaskId) (expectedRevision : Nat) :
    ArtifactMethod C D E F (acceptLocked env taskId F.operationId expectedRevision)
      (fun _ own => own = {.processing} ∨ own = {.accepted}) {.processing} := by
  unfold acceptLocked
  refine method_operation_bind (fun _ => Or.inl rfl) fun current _ => method_lift_bind (fun _ => Or.inl rfl) fun _ _ => ?_
  refine method_ensure_bind (fun _ => Or.inl rfl) fun _ => method_ensure_bind (fun _ => Or.inl rfl) fun _ => ?_
  refine method_lift_bind (fun _ => Or.inl rfl) fun accepted _ => ?_
  have hrecord : ArtifactMethod C D E F (record (env.record 1) (operationEvent taskId F.operationId
      (.artifactAccepted accepted))) (fun _ own => own = {.processing} ∨ own = {.accepted}) {.processing} :=
    method_record (fun _ => Or.inl rfl) fun s rest envelope a hi hpayload hid hevents hchange =>
      ⟨{.accepted}, accepted_journalled hi hpayload hid hevents hchange, Or.inr rfl⟩
  exact hrecord.bind (fun _ _ hown => hown) fun _ _ hown => hown

/-- The receipt of what is cached is journalled. -/
theorem receipt_journalled {a : AuthorityState} {envelope : EventEnvelope} {execution : BrokeredMcpToolExecution}
    {digest executor summary : String} {revision : Nat} {succeeded : Bool} {outcome : Option OperationOutcome}
    (hi : ArtifactInv E F (m + {.final execution}) s) (hdigest : digestExecution E execution = .ok digest)
    (hpayload : envelope.payload = .operationReceipt revision executor succeeded outcome summary (some digest))
    (hid : envelope.operationId = some F.operationId)
    (hevents : a.journal.events = s.authority.journal.events ++ [envelope])
    (hchange : s.authority.operations.Change envelope a.operations) :
    ArtifactInv E F (m + {.final execution} + {.receipted}) { s with authority := a } := by
  have hsame := same_of_change hchange (hpayload ▸ rfl)
  have hartifacts : artifacts F.operationId a.journal.events = artifacts F.operationId s.authority.journal.events := by
    rw [artifacts, hevents, ofOperation_append hid, hpayload]
    exact List.append_nil _
  have hreceipts : receipts F.operationId a.journal.events ≠ [] := by
    rw [receipts, hevents, ofOperation_append hid, hpayload]
    exact List.append_ne_nil_of_right_ne_nil _ (List.cons_ne_nil _ _)
  have hfinal : Final (s.own.executions.get? F.operationId) execution :=
    hi.means (.final execution) (Multiset.mem_add.mpr (Or.inr (Multiset.mem_singleton_self _)))
  have hjournal : ArtifactInv E F (m + {.final execution}) { s with authority := a } := by
    refine hi.journal hevents (hsame ▸ hi.task) rfl rfl (fun stage hstage => ?_) (hartifacts ▸ hi.artifact)
      (hartifacts ▸ hi.unaccepted) (fun d hd => ?_) fun _ _ _ => hreceipts
    · have hmeans := hi.means stage hstage
      cases stage with
      | processing => exact ⟨hmeans.1, hartifacts.trans hmeans.2⟩
      | receipted => exact hreceipts
      | _ => exact hmeans
    · rw [receipts, ofOperation_singleton hid, hpayload] at hd
      exact ⟨execution, digest, hfinal, hdigest, List.mem_singleton.mp hd⟩
  exact hjournal.learn ⟨rfl, rfl⟩ hreceipts

theorem method_completeOperation {env : Nat → RecordEnv} {taskId : TaskId} {expectedRevision : Nat}
    {completion : OperationCompletion} {execution : BrokeredMcpToolExecution} {digest : String}
    (hdigest : digestExecution E execution = .ok digest) (hcompletion : completion.resultDigest = some digest) :
    ArtifactMethod C D E F (completeOperation env taskId F.operationId expectedRevision completion)
      (fun r own => (∃ x, r = .ok x) → own = {.final execution} + {.receipted}) {.final execution} := by
  have hfailed {e : DaemonError} : (∃ x : OperationRecord, (Except.error e : Except DaemonError OperationRecord) = .ok x) →
      ({.final execution} : Multiset Stage) = {.final execution} + {.receipted} := fun ⟨_, h⟩ => nomatch h
  unfold completeOperation
  refine method_operation_bind (fun _ => hfailed) fun current _ => method_lift_bind (fun _ => hfailed) fun _ _ => ?_
  refine method_ensure_bind (fun _ => hfailed) fun _ => method_lift_bind (fun _ => hfailed) fun outcome _ => ?_
  refine method_ensure_bind (fun _ => hfailed) fun _ => method_lift_bind (fun _ => hfailed) fun executor _ => ?_
  refine method_lift_bind (fun _ => hfailed) fun summary _ => method_ensure_bind (fun _ => hfailed) fun _ => ?_
  have hrecord : ArtifactMethod C D E F (record (env 0) (operationEvent taskId F.operationId
      (.operationReceipt expectedRevision executor outcome.hasSucceeded (some outcome) summary completion.resultDigest)))
      (fun r own => (r = .ok () → own = {.final execution} + {.receipted})) {.final execution} := by
    refine method_record (fun _ h => nomatch h) fun s rest envelope a hi hpayload hid hevents hchange => ?_
    rw [hcompletion] at hpayload
    refine ⟨{.final execution} + {.receipted}, ?_, fun _ => rfl⟩
    rw [← add_assoc]
    exact receipt_journalled hi hdigest hpayload hid hevents hchange
  refine hrecord.bind (fun _ own hown => ?_) fun e own _ h => absurd h (fun ⟨_, h⟩ => nomatch h)
  rw [hown rfl]
  exact method_transition (fun _ => Multiset.mem_add.mpr (Or.inr (Multiset.mem_singleton_self _))) fun _ _ => rfl

end Methods

/-! ## The calls -/

/-- A call keeps the invariant, whatever the others do. -/
abbrev ArtifactKeeping (C : LineCodec EventEnvelope) (D : Digests) (E : CallDigests) (F : Fixed) (p : BrokeredProg α)
    (post : Except BrokeredError α → Multiset Stage → Prop) (own : Multiset Stage) : Prop :=
  p.Holds (execShared C D execBrokered) (brokeredAllowed Steady) (ArtifactInv E F) post own

variable {post : Except BrokeredError α → Multiset Stage → Prop}

theorem artifact_own {op : BrokeredOp} {f : BrokeredAns op → BrokeredProg α}
    (h : ∀ s rest, ArtifactInv E F (rest + own) s → op.ready s.own = true → Steady op s.own →
      ∃ own', ArtifactInv E F (rest + own') { s with own := (execBrokered op s.own).1 } ∧
        ArtifactKeeping C D E F (f (execBrokered op s.own).2) post own') :
    ArtifactKeeping C D E F (BrokeredProg.own op >>= f) post own :=
  Prog.holds_perform_bind fun s rest hi hallowed => h s rest hi hallowed.1 hallowed.2

/-- An operation that changes nothing that the invariant is about. -/
theorem artifact_quiet {op : BrokeredOp} {f : BrokeredAns op → BrokeredProg α}
    (hquiet : ∀ s : Shared BrokeredShared, ArtifactInv.SameView F.operationId s { s with own := (execBrokered op s.own).1 })
    (h : ∀ answer, ArtifactKeeping C D E F (f answer) post own) :
    ArtifactKeeping C D E F (BrokeredProg.own op >>= f) post own :=
  artifact_own fun s _ hi _ _ => ⟨own, hi.congr (hquiet s), h _⟩

theorem artifact_lift_bind {r : Except BrokeredError β} {f : β → BrokeredProg α} (herr : ∀ e, post (.error e) own)
    (hok : ∀ b, r = .ok b → ArtifactKeeping C D E F (f b) post own) :
    ArtifactKeeping C D E F (lift r >>= f) post own := by
  cases r with
  | ok b => exact hok b rfl
  | error e => exact herr e

theorem artifact_ensure_bind {p : Prop} [Decidable p] {e : BrokeredError} {f : Unit → BrokeredProg α}
    (herr : ∀ e, post (.error e) own) (hok : p → ArtifactKeeping C D E F (f ()) post own) :
    ArtifactKeeping C D E F (ensure p e >>= f) post own := by
  refine artifact_lift_bind herr fun _ hp => hok ?_
  split_ifs at hp with h
  exact h

theorem artifact_daemonCall {method : Method β} {P : Except DaemonError β → Multiset Stage → Prop}
    (hmethod : ArtifactMethod C D E F method P own) :
    ArtifactKeeping C D E F (daemonCall method) (fun r own' => ∃ r', r = .ok r' ∧ P r' own') own :=
  Prog.Holds.embed (fun _ _ => rfl) (fun _ _ _ => trivial) (hmethod.weaken fun r _ hown => ⟨r, rfl, hown⟩)

/-- A method of the daemon, its error passed on. -/
theorem artifact_daemon_bind {method : Method β} {f : β → BrokeredProg α}
    {P : Except DaemonError β → Multiset Stage → Prop} (hmethod : ArtifactMethod C D E F method P own)
    (herr : ∀ e own', P (.error e) own' → post (.error (.daemon e)) own')
    (hok : ∀ b own', P (.ok b) own' → ArtifactKeeping C D E F (f b) post own') :
    ArtifactKeeping C D E F (daemon method >>= f) post own := by
  have hdaemon : ArtifactKeeping C D E F (daemon method)
      (fun r own' => ∃ r' : Except DaemonError β, r = r'.mapError .daemon ∧ P r' own') own := by
    unfold daemon
    refine (artifact_daemonCall hmethod).bind (fun r own' hown => ?_) fun e own' hown => ?_
    · obtain ⟨r', hr, hP⟩ := hown
      exact ⟨r', by rw [Except.ok.inj hr], hP⟩
    · obtain ⟨_, hr, -⟩ := hown
      exact nomatch hr
  refine hdaemon.bind (fun b own' hown => ?_) fun e own' hown => ?_
  · obtain ⟨r', hr, hP⟩ := hown
    cases r' with
    | ok b' =>
        obtain rfl := Except.ok.inj hr
        exact hok _ own' hP
    | error e => exact nomatch hr
  · obtain ⟨r', hr, hP⟩ := hown
    cases r' with
    | ok b' => exact nomatch hr
    | error e' =>
        obtain rfl := Except.error.inj hr
        exact herr e' own' hP

/-- Reading the operation tells its task, and with it the receipt of one that is completed. -/
theorem method_operation_completed :
    ArtifactMethod C D E F (Method.operation F.operationId)
      (fun r own => ∀ x, r = .ok x → x.taskId = F.taskId ∧
        (¬OperationState.completed x.state ∧ own = 0 ∨ OperationState.completed x.state ∧ own = {.receipted})) 0 := by
  intro s rest hi _
  rw [add_zero] at hi
  by_cases hcompleted : ∃ r, s.authority.operations.get F.operationId = some r ∧ OperationState.completed r.state
  · obtain ⟨r, hget, hstate⟩ := hcompleted
    have hreceipted : ArtifactInv E F (rest + {.receipted}) s := hi.learn ⟨rfl, rfl⟩ (hi.completed r hget hstate)
    refine ⟨{.receipted}, hreceipted, fun x hx => ⟨hi.task x (okOr_eq_ok.mp hx), Or.inr ⟨?_, rfl⟩⟩⟩
    obtain rfl := Option.some.inj (hget.symm.trans (okOr_eq_ok.mp hx))
    exact hstate
  · refine ⟨0, (add_zero rest).symm ▸ hi, fun x hx => ?_⟩
    have hget := okOr_eq_ok.mp hx
    exact ⟨hi.task x hget, Or.inl ⟨fun hstate => hcompleted ⟨x, hget, hstate⟩, rfl⟩⟩

theorem matching_eq_ok {taskId : TaskId} {operationRevision : Nat} {binding : BrokeredMcpBinding}
    {found : Option CachedBrokeredMcpExecution} (h : matching taskId operationRevision binding cached = .ok found) :
    found = cached ∧ ∀ c, cached = some c → c.toolName = binding.toolName := by
  unfold matching at h
  cases cached with
  | none => exact ⟨(Except.ok.inj h).symm, fun c hc => nomatch hc⟩
  | some c =>
      dsimp only at h
      split_ifs at h with hmatch
      refine ⟨(Except.ok.inj h).symm, fun c' hc => ?_⟩
      rw [← Option.some.inj hc]
      exact hmatch.2.2.1

/-- Under the lock of its executor the tool is executed if nothing is cached. -/
theorem artifact_executeLocked {taskId : TaskId} {executor : Nat} (expectedRevision : Nat) (binding : BrokeredMcpBinding)
    (executed : BrokeredMcpToolExecution) (hexecutor : F.runtimes F.taskId = some executor) :
    ArtifactKeeping C D E F (executeLocked taskId F.operationId expectedRevision binding executed)
      (fun _ own => own = {.locked executor}) {.locked executor} := by
  unfold executeLocked
  refine artifact_own fun s rest hi _ _ => ?_
  cases hget : s.own.executions.get? F.operationId with
  | some c =>
      have hsame : execBrokered (.claim F.operationId) s.own = (s.own, some c) := by simp [execBrokered, hget]
      rw [hsame]
      refine ⟨{.locked executor}, hi, artifact_lift_bind (fun _ => rfl) fun found hfound => ?_⟩
      obtain ⟨rfl, -⟩ := matching_eq_ok hfound
      exact rfl
  | none =>
      have hsame : execBrokered (.claim F.operationId) s.own =
          ({ s.own with executing := F.operationId :: s.own.executing }, none) := by simp [execBrokered, hget]
      rw [hsame]
      have hclaimed : ArtifactInv E F (rest + {.claimed executor}) s :=
        hi.holding ⟨rfl, rfl⟩ ⟨rfl, rfl⟩ ⟨hexecutor, hget⟩
      have hmarked : ArtifactInv E F (rest + {.claimed executor})
          { s with own := { s.own with executing := F.operationId :: s.own.executing } } :=
        hclaimed.congr ⟨rfl, rfl, rfl, rfl, rfl, rfl, rfl⟩
      refine ⟨{.claimed executor}, hmarked, ?_⟩
      show ArtifactKeeping C D E F (BrokeredProg.own (.execute F.operationId) >>= _) _ _
      refine artifact_quiet (fun s => ⟨rfl, rfl, rfl, rfl, rfl, rfl, rfl⟩) fun _ => ?_
      refine artifact_own fun s rest hi _ _ => ⟨{.locked executor}, hi.insert rfl, ?_⟩
      exact rfl

theorem artifact_cached {taskId : TaskId} {operationRevision : Nat} {binding : BrokeredMcpBinding}
    {f : Option CachedBrokeredMcpExecution → BrokeredProg α} (herr : ∀ e, post (.error e) own)
    (hok : ∀ cached, ArtifactKeeping C D E F (f cached) post own) :
    ArtifactKeeping C D E F (cachedBrokeredMcpExecution taskId F.operationId operationRevision binding >>= f) post own := by
  have hcached : ArtifactKeeping C D E F (cachedBrokeredMcpExecution taskId F.operationId operationRevision binding)
      (fun _ own' => own' = own) own := by
    unfold cachedBrokeredMcpExecution
    refine artifact_quiet (fun _ => ⟨rfl, rfl, rfl, rfl, rfl, rfl, rfl⟩) fun cached => ?_
    cases matching taskId operationRevision binding cached with
    | ok found => exact rfl
    | error e => exact rfl
  refine hcached.bind (fun cached own' hown => ?_) fun e own' hown => ?_
  · rw [hown]
    exact hok cached
  · rw [hown]
    exact herr e

theorem artifact_executeBound (binding : BrokeredMcpBinding) (taskId : TaskId) (expectedRevision : Nat)
    (executed : BrokeredMcpToolExecution) :
    ArtifactKeeping C D E F (executeBound binding taskId F.operationId expectedRevision executed) (fun _ own => own = 0)
      0 := by
  unfold executeBound
  refine artifact_daemon_bind (P := fun r own => own = 0 ∧ ∀ x, r = .ok x → x.taskId = F.taskId)
    (method_operation fun r hr => ⟨rfl, hr⟩) (fun _ _ hown => hown.1) fun record own hown => ?_
  obtain ⟨rfl, htask⟩ := hown
  have htask := htask record rfl
  refine artifact_lift_bind (fun _ => rfl) fun _ hscope => artifact_ensure_bind (fun _ => rfl) fun _ => ?_
  have htaskId : taskId = F.taskId := by
    cases hvalid : validateOperationScope record taskId expectedRevision with
    | error e =>
        rw [hvalid] at hscope
        exact nomatch hscope
    | ok _ =>
        unfold validateOperationScope at hvalid
        split_ifs at hvalid with hmismatch
        exact (not_not.mp hmismatch).symm.trans htask
  refine artifact_lift_bind (fun _ => rfl) fun _ _ => artifact_cached (fun _ => rfl) fun cached => ?_
  cases cached with
  | some cached => exact rfl
  | none =>
      refine artifact_own fun s rest hi _ _ => ⟨0, hi, ?_⟩
      have hruntime : (execBrokered (.getRuntime taskId) s.own).2 = F.runtimes F.taskId := by
        show s.own.runtimes taskId = _
        rw [hi.runtimes, htaskId]
      rw [hruntime]
      cases hexecutor : F.runtimes F.taskId with
      | none => exact rfl
      | some executor =>
          refine artifact_own fun s rest hi hready _ => ⟨{.locked executor}, ?_, ?_⟩
          · rw [add_zero] at hi
            exact hi.lockExecutor (of_decide_eq_true hready)
          · have hlocked : ArtifactKeeping C D E F (executeLocked taskId F.operationId expectedRevision binding executed)
                (fun _ own => own = {.locked executor}) {.locked executor} :=
              artifact_executeLocked expectedRevision binding executed hexecutor
            refine Prog.Holds.andThen (Prog.Holds.attempt (hlocked.weaken fun result own hown => ?_))
            rw [hown]
            refine artifact_own fun s rest hi _ _ => ⟨0, ?_, ?_⟩
            · rw [add_zero]
              exact hi.unlockExecutor
            · cases result with
              | ok execution => exact rfl
              | error e => exact rfl

/-- What a call goes on with: it is to run the operation, or it knows what an earlier call has made of it. -/
abbrev Dispatched (r : Except BrokeredError (Nat ⊕ BrokeredMcpToolExecution)) (own : Multiset Stage) : Prop :=
  (∀ revision, r = .ok (.inl revision) → own = 0) ∧
    ∀ execution, r = .ok (.inr execution) → own = {.receipted} + {.final execution}

theorem dispatched_error {e : BrokeredError} : Dispatched (.error e) own :=
  ⟨fun _ h => (nomatch h), fun _ h => nomatch h⟩

theorem artifact_dispatchOrRetry (env : RunEnv) (binding : BrokeredMcpBinding) (taskId : TaskId) (expectedRevision : Nat) :
    ArtifactKeeping C D E F (dispatchOrRetry env binding taskId F.operationId expectedRevision) Dispatched 0 := by
  have hdispatch {revision : Nat} : Dispatched (.ok (.inl revision)) 0 := ⟨fun _ _ => rfl, fun _ h => nomatch h⟩
  unfold dispatchOrRetry
  refine artifact_daemon_bind method_operation_completed (fun _ _ _ => dispatched_error) fun record own hown => ?_
  obtain ⟨-, hown⟩ := hown record rfl
  refine artifact_ensure_bind (fun _ => dispatched_error) fun _ => artifact_lift_bind (fun _ => dispatched_error) fun _ _ => ?_
  by_cases hauthorized : record.state = .authorized
  · rw [if_pos hauthorized]
    obtain ⟨-, rfl⟩ := hown.resolve_right fun h => by
      rcases h.1 with h | h | h
      · exact nomatch hauthorized.symm.trans h
      · exact nomatch hauthorized.symm.trans h
      · exact nomatch hauthorized.symm.trans h
    refine artifact_lift_bind (fun _ => dispatched_error) fun _ _ => ?_
    have hbegin : ArtifactMethod C D E F (beginOperation (env.record 0) taskId F.operationId expectedRevision)
        (fun _ own => own = 0) 0 := method_beginOperation fun _ => rfl
    refine artifact_daemon_bind hbegin (fun _ _ _ => dispatched_error) fun dispatched own hown => ?_
    rw [hown]
    exact hdispatch
  · rw [if_neg hauthorized]
    by_cases hdispatching : record.state = .dispatching ∧ checkedAdd expectedRevision 1 = some record.revision
    · rw [if_pos hdispatching]
      obtain ⟨-, rfl⟩ := hown.resolve_right fun h => by
        rcases h.1 with h | h | h
        · exact nomatch hdispatching.1.symm.trans h
        · exact nomatch hdispatching.1.symm.trans h
        · exact nomatch hdispatching.1.symm.trans h
      exact hdispatch
    · rw [if_neg hdispatching]
      split_ifs with hcompleted
      · obtain ⟨-, rfl⟩ := hown.resolve_left fun h => h.1 hcompleted.1
        -- A completed operation has a receipt, which is one of what is cached.
        have hcached : ArtifactKeeping C D E F
            (cachedBrokeredMcpExecution taskId F.operationId (expectedRevision + 1) binding)
            (fun r own => ∀ c, r = .ok (some c) → own = {.receipted} + {.final c.execution}) {.receipted} := by
          unfold cachedBrokeredMcpExecution
          refine artifact_own fun s rest hi _ _ => ?_
          show ∃ own', _ ∧ ArtifactKeeping C D E F
            (lift (matching taskId (expectedRevision + 1) binding (s.own.executions.get? F.operationId))) _ own'
          cases hmatching : matching taskId (expectedRevision + 1) binding (s.own.executions.get? F.operationId) with
          | error e => exact ⟨{.receipted}, hi, fun c hc => nomatch hc⟩
          | ok found =>
              obtain ⟨rfl, -⟩ := matching_eq_ok hmatching
              cases hget : s.own.executions.get? F.operationId with
              | none => exact ⟨{.receipted}, hi, fun c hc => nomatch hc⟩
              | some c =>
                  have hreceipted : receipts F.operationId s.authority.journal.events ≠ [] :=
                    hi.means .receipted (Multiset.mem_add.mpr (Or.inr (Multiset.mem_singleton_self _)))
                  obtain ⟨d, hd⟩ := List.exists_mem_of_ne_nil _ hreceipted
                  obtain ⟨e, -, hfinal, -⟩ := hi.receipts d hd
                  have hexecution : c.execution = e := by
                    have h := hfinal.1
                    rw [hget] at h
                    exact Option.some.inj h
                  refine ⟨{.receipted} + {.final c.execution}, ?_, fun c' hc => ?_⟩
                  · rw [← add_assoc, hexecution]
                    exact hi.learn ⟨rfl, rfl⟩ hfinal
                  · rw [Option.some.inj (Except.ok.inj hc)]
        refine hcached.bind (fun cached own hown => ?_) fun _ _ _ => dispatched_error
        cases cached with
        | none => exact dispatched_error
        | some c =>
            refine ⟨fun _ h => (nomatch h), fun execution h => ?_⟩
            rw [hown c rfl, Sum.inr.inj (Except.ok.inj h)]
      · exact dispatched_error
      · exact dispatched_error

/-- Accepting the artifact of what is cached, or failing to. -/
theorem artifact_acceptBrokeredGenuiResult (env : RunEnv) (taskId : TaskId) (dispatchingRevision : Nat)
    (execution : BrokeredMcpToolExecution) :
    ArtifactKeeping C D E F (acceptBrokeredGenuiResult env taskId F.operationId dispatchingRevision execution)
      (fun r own => (∃ execution, r = .ok execution) ∧ (own = {.processing} ∨ own = {.accepted})) {.processing} := by
  unfold acceptBrokeredGenuiResult
  cases execution.structuredContent.bind env.candidate with
  | none => exact ⟨⟨_, rfl⟩, Or.inl rfl⟩
  | some schemaVersion =>
      have haccept : ArtifactKeeping C D E F (acceptGenuiArtifact env taskId F.operationId dispatchingRevision)
          (fun r own => (∃ accepted, r = .ok accepted) ∧ (own = {.processing} ∨ own = {.accepted})) {.processing} := by
        unfold acceptGenuiArtifact
        refine artifact_quiet (fun _ => ⟨rfl, rfl, rfl, rfl, rfl, rfl, rfl⟩) fun _ => ?_
        refine (artifact_daemonCall (method_acceptLocked env taskId dispatchingRevision)).bind
          (fun accepted own hown => ?_) fun e own hown => ?_
        · obtain ⟨_, -, hown⟩ := hown
          exact artifact_quiet (fun _ => ⟨rfl, rfl, rfl, rfl, rfl, rfl, rfl⟩) fun _ => ⟨⟨accepted, rfl⟩, hown⟩
        · obtain ⟨_, hr, -⟩ := hown
          exact nomatch hr
      refine haccept.bind (fun accepted own hown => ?_) fun e own hown => ?_
      · cases accepted with
        | ok accepted => exact ⟨⟨_, rfl⟩, hown.2⟩
        | error e => exact ⟨⟨_, rfl⟩, hown.2⟩
      · obtain ⟨_, hr⟩ := hown.1
        exact nomatch hr

/-- The call that has accepted the artifact, or failed to, updates the cache. -/
theorem artifact_update {stage : Stage} (hstage : stage = .processing ∨ stage = .accepted)
    (execution : BrokeredMcpToolExecution) :
    ArtifactKeeping C D E F (do
        let updated ← BrokeredProg.own (.update F.operationId execution)
        ensure (updated = true) .replayMismatch
        return execution) (fun r own => ∀ e, r = .ok e → own = {.final e}) {stage} := by
  refine artifact_own fun s rest hi _ _ => ?_
  obtain ⟨c, hget⟩ : ∃ c, s.own.executions.get? F.operationId = some c := by
    have hmeans := hi.means stage (Multiset.mem_add.mpr (Or.inr (Multiset.mem_singleton_self _)))
    obtain rfl | rfl := hstage
    · obtain ⟨⟨c, hc, -⟩, -⟩ := hmeans
      exact ⟨c, hc⟩
    · obtain ⟨c, hc, -⟩ := hmeans
      exact ⟨c, hc⟩
  have hexec : execBrokered (.update F.operationId execution) s.own =
      ({ s.own with
        executions := s.own.executions.put { c with execution, genuiArtifactProcessed := true }
        processing := s.own.processing.erase F.operationId }, true) := by simp [execBrokered, hget]
  rw [hexec]
  refine ⟨{.final execution}, hi.update hstage hget, ?_⟩
  refine artifact_ensure_bind (fun _ e he => nomatch he) fun _ => ?_
  show ∀ e, Except.ok execution = Except.ok e → _
  intro e he
  rw [Except.ok.inj he]

theorem artifact_processExecution (env : RunEnv) (binding : BrokeredMcpBinding) (taskId : TaskId)
    (dispatchingRevision : Nat) (execution : BrokeredMcpToolExecution) :
    ArtifactKeeping C D E F (processExecution env binding taskId F.operationId dispatchingRevision execution)
      (fun r own => ∀ e, r = .ok e → own = {.final e}) 0 := by
  unfold processExecution
  refine artifact_own fun s rest hi _ hsteady => ?_
  rw [add_zero] at hi
  obtain ⟨hcached, hfree⟩ := hsteady
  obtain ⟨c, hget, rfl⟩ := Option.map_eq_some_iff.mp hcached
  by_cases hflagged : (binding.toolName = genuiCompile ∧ c.execution.outcome = .succeeded) ∧
      c.genuiArtifactProcessed = false
  · have hexec : execBrokered (.getProcessed F.operationId c.execution
        (decide (binding.toolName = genuiCompile ∧ c.execution.outcome = .succeeded))) s.own =
        ({ s.own with processing := F.operationId :: s.own.processing }, some c) := by
      simp [execBrokered, BrokeredShared.unprocessed, hget, hflagged]
    rw [hexec]
    cases hmatching : matching taskId dispatchingRevision binding (some c) with
    | error e =>
        have hhalted : ArtifactInv E F (rest + {.halted})
            { s with own := { s.own with processing := F.operationId :: s.own.processing } } :=
          hi.process hfree ⟨rfl, rfl⟩ trivial
        refine ⟨{.halted}, hhalted, ?_⟩
        exact fun e he => nomatch he
    | ok found =>
        obtain ⟨rfl, htool⟩ := matching_eq_ok hmatching
        have haccepts : Accepts (s.own.executions.get? F.operationId) :=
          ⟨c, hget, hflagged.2, (htool c rfl).trans hflagged.1.1, hflagged.1.2⟩
        have hnobody : .accepted ∉ rest := by
          intro hmem
          have hzero : processors rest = 0 := hi.processing.symm.trans (List.count_eq_zero_of_not_mem hfree)
          exact Multiset.countP_eq_zero.mp hzero .accepted hmem rfl
        have hnone : artifacts F.operationId s.authority.journal.events = [] := by
          refine hi.unaccepted.resolve_right fun h => h.elim hnobody ?_
          rintro ⟨c', hc', hprocessed⟩
          obtain rfl := Option.some.inj (hget.symm.trans hc')
          exact nomatch hflagged.2.symm.trans hprocessed
        have hprocessing : ArtifactInv E F (rest + {.processing})
            { s with own := { s.own with processing := F.operationId :: s.own.processing } } :=
          hi.process hfree ⟨rfl, rfl⟩ ⟨haccepts, hnone⟩
        refine ⟨{.processing}, hprocessing, ?_⟩
        show ArtifactKeeping C D E F (if (_ ∧ _) ∧ c.genuiArtifactProcessed = false then _ else _) _ _
        rw [if_pos hflagged]
        refine (artifact_acceptBrokeredGenuiResult env taskId dispatchingRevision c.execution).bind
          (fun processed own hown => ?_) fun e own hown => ?_
        · obtain ⟨-, rfl | rfl⟩ := hown
          · exact artifact_update (Or.inl rfl) processed
          · exact artifact_update (Or.inr rfl) processed
        · obtain ⟨⟨_, hr⟩, -⟩ := hown
          exact nomatch hr
  · have hexec : execBrokered (.getProcessed F.operationId c.execution
        (decide (binding.toolName = genuiCompile ∧ c.execution.outcome = .succeeded))) s.own = (s.own, some c) := by
      simp only [execBrokered, BrokeredShared.unprocessed, hget, Option.all_some, Bool.and_eq_true, decide_eq_true_eq,
        Bool.not_eq_true', if_neg hflagged]
    rw [hexec]
    cases hmatching : matching taskId dispatchingRevision binding (some c) with
    | error e =>
        refine ⟨0, (add_zero rest).symm ▸ hi, ?_⟩
        exact fun e he => nomatch he
    | ok found =>
        obtain ⟨rfl, htool⟩ := matching_eq_ok hmatching
        have hfinal : Final (s.own.executions.get? F.operationId) c.execution := by
          refine ⟨hcached, ?_⟩
          rintro ⟨c', hc', hunprocessed, htool', hsucceeded⟩
          obtain rfl := Option.some.inj (hget.symm.trans hc')
          exact hflagged ⟨⟨(htool c rfl).symm.trans htool', hsucceeded⟩, hunprocessed⟩
        have hlearnt : ArtifactInv E F (rest + {.final c.execution}) s := hi.learn ⟨rfl, rfl⟩ hfinal
        refine ⟨{.final c.execution}, hlearnt, ?_⟩
        show ArtifactKeeping C D E F (if (_ ∧ _) ∧ c.genuiArtifactProcessed = false then _ else _) _ _
        rw [if_neg hflagged]
        show ∀ e, Except.ok c.execution = Except.ok e → _
        intro e he
        rw [Except.ok.inj he]

theorem artifact_finishExecution (env : RunEnv) (hdigests : env.digests = E) (binding : BrokeredMcpBinding)
    (taskId : TaskId) (dispatchingRevision : Nat) (execution : BrokeredMcpToolExecution) :
    ArtifactKeeping C D E F (finishExecution env binding taskId F.operationId dispatchingRevision execution)
      (fun r own => r = .ok () → own = {.final execution} + {.receipted}) {.final execution} := by
  unfold finishExecution
  refine artifact_lift_bind (fun _ h => nomatch h) fun digest hdigest => ?_
  rw [hdigests] at hdigest
  exact artifact_daemon_bind (method_completeOperation hdigest rfl) (fun _ _ _ h => nomatch h)
    fun completed own hown _ => hown ⟨completed, rfl⟩

/-- A call returns what it knows to stay in the cache, after its receipt. -/
theorem artifact_returned (execution : BrokeredMcpToolExecution)
    (hown : .final execution ∈ own ∧ .receipted ∈ own) :
    ArtifactKeeping C D E F (do
        BrokeredProg.own (.returned F.operationId execution)
        return execution) (fun _ _ => True) own := by
  refine artifact_own fun s rest hi _ _ => ⟨own, hi.returns ?_ ?_, trivial⟩
  · exact hi.means (.final execution) (Multiset.mem_add.mpr (Or.inr hown.1))
  · exact hi.means .receipted (Multiset.mem_add.mpr (Or.inr hown.2))

theorem artifact_runAuthorizedBrokeredMcpTool (env : RunEnv) (hdigests : env.digests = E) (taskId : TaskId)
    (expectedRevision : Nat) (toolName proposalDigest : String) (arguments : Value) :
    ArtifactKeeping C D E F (runAuthorizedBrokeredMcpTool env taskId F.operationId expectedRevision toolName
      proposalDigest arguments) (fun _ _ => True) 0 := by
  unfold runAuthorizedBrokeredMcpTool
  refine artifact_lift_bind (fun _ => trivial) fun binding _ => ?_
  refine (artifact_dispatchOrRetry env binding taskId expectedRevision).bind (fun dispatched own hown => ?_)
    fun _ _ _ => trivial
  cases dispatched with
  | inr execution =>
      rw [hown.2 execution rfl]
      refine artifact_returned execution ⟨Multiset.mem_add.mpr (Or.inr ?_), Multiset.mem_add.mpr (Or.inl ?_)⟩
      · exact Multiset.mem_singleton_self _
      · exact Multiset.mem_singleton_self _
  | inl dispatchingRevision =>
      rw [hown.1 dispatchingRevision rfl]
      have hexecute : ArtifactKeeping C D E F (executeBrokeredMcpTool env.digests taskId F.operationId dispatchingRevision
          binding.toolName binding.proposalDigest arguments env.executed) (fun _ own => own = 0) 0 := by
        unfold executeBrokeredMcpTool
        exact artifact_lift_bind (fun _ => rfl) fun binding _ =>
          artifact_executeBound binding taskId dispatchingRevision env.executed
      refine hexecute.bind (fun execution own hown => ?_) fun _ _ _ => trivial
      rw [hown]
      refine (artifact_processExecution env binding taskId dispatchingRevision execution).bind
        (fun execution own hown => ?_) fun _ _ _ => trivial
      rw [hown execution rfl]
      refine (artifact_finishExecution env hdigests binding taskId dispatchingRevision execution).bind
        (fun _ own hown => ?_) fun _ _ _ => trivial
      rw [hown rfl]
      refine artifact_returned execution ⟨Multiset.mem_add.mpr (Or.inl ?_), Multiset.mem_add.mpr (Or.inr ?_)⟩
      · exact Multiset.mem_singleton_self _
      · exact Multiset.mem_singleton_self _

theorem artifact_call {p : BrokeredProg Unit} (hcall : RunCall E F.operationId p) :
    ArtifactKeeping C D E F p (fun _ _ => True) 0 := by
  cases hcall with
  | run env taskId expectedRevision toolName proposalDigest arguments h =>
      exact (artifact_runAuthorizedBrokeredMcpTool env h taskId expectedRevision toolName proposalDigest arguments).bind
        (fun _ _ _ => trivial) fun _ _ _ => trivial

/-! ## Runs -/

/-- **Main result.** From any state in which the operation has not been run: whatever calls of it there are and however
they interleave, as long as each that goes on from an execution goes on from the one in the cache, and alone, one artifact
is accepted at most, and all calls return the execution that the receipt has the digest of. -/
theorem artifact_sound (C : LineCodec EventEnvelope) (D : Digests) (E : CallDigests) (s : Shared BrokeredShared)
    (r : OperationRecord) (hget : s.authority.operations.get r.operationId = some r) (hunrun : Unrun r.operationId s)
    (pool : BrokeredPool)
    (hrun : Relation.ReflTransGen (BrokeredStep C D (RunCall E r.operationId) Steady) ⟨s, []⟩ pool) :
    ArtifactSound E r.operationId pool.state := by
  have hstart : ArtifactInv E ⟨r.operationId, r.taskId, s.own.runtimes⟩ 0 s := .start hget hunrun
  have hstarts : ∀ (s' : Shared BrokeredShared) p s'' (m : Multiset Stage), RunCall E r.operationId p ∧ s'' = s' →
      ArtifactInv E ⟨r.operationId, r.taskId, s.own.runtimes⟩ m s' →
      ∃ own, ArtifactInv E ⟨r.operationId, r.taskId, s.own.runtimes⟩ (m + own) s'' ∧
        ArtifactKeeping C D E ⟨r.operationId, r.taskId, s.own.runtimes⟩ p (fun _ _ => True) own := by
    intro s' p s'' m ⟨hcall, hs⟩ hi
    subst hs
    rw [← add_zero m] at hi
    exact ⟨0, hi, artifact_call hcall⟩
  obtain ⟨tokens, hheld⟩ := Threads.reachable (fun _ _ _ (h : False) => h.elim) hstarts hstart hrun
  exact hheld.1.sound

/-! ## Two calls at once -/

instance Steady.decidable : (op : BrokeredOp) → (s : BrokeredShared) → Decidable (Steady op s)
  | .getProcessed operationId execution _, s =>
      inferInstanceAs (Decidable (((s.executions.get? operationId).map CachedBrokeredMcpExecution.execution =
        some execution) ∧ operationId ∉ s.processing))
  | .register .., _ | .getRuntime .., _ | .removeRuntime .., _ | .lockExecutor .., _ | .unlockExecutor .., _
  | .getCached .., _ | .claim .., _ | .execute .., _ | .insert .., _ | .retain .., _ | .update .., _
  | .lockAcceptance, _ | .unlockAcceptance, _ | .returned .., _ => instDecidableTrue

def sampleArtifact : AcceptedGenUiArtifact := ⟨⟨1⟩, 1, "index.html", "digest", ⟨"compiler", "1"⟩⟩

def sampleRunEnv : RunEnv where
  digests := sampleCallDigests
  record := sampleEnv
  executed := sampleExecution
  candidate _ := some ⟨1, by decide⟩
  persist := .ok sampleArtifact
  display _ := ""

def sampleRun : BrokeredProg Unit :=
  (runAuthorizedBrokeredMcpTool sampleRunEnv sampleTask sampleOperation 4 genuiCompile sampleSha256 .null).discard

/-- The operation is authorized, and its task has a runtime. -/
def drySampleAuthorized : Option BrokeredPool :=
  sharedDryRun sampleDigests execBrokered (brokeredCheck fun _ _ => true) .start sampleAuthorized
    (List.replicate 11 0 ++ List.replicate 10 1 ++ List.replicate 2 2)

/-- Then two calls run it. -/
def drySampleRuns (check : BrokeredOp → BrokeredShared → Bool) (schedule : List Nat) : Option BrokeredPool :=
  drySampleAuthorized.bind fun pool =>
    schedule.foldlM (sharedDryAdvance sampleDigests execBrokered (brokeredCheck check)) ⟨pool.state, [sampleRun, sampleRun]⟩

/-- The runs that the dry runs stand for. -/
structure SampleRun (condition : BrokeredOp → BrokeredShared → Prop) (C : LineCodec EventEnvelope)
    (s : Shared BrokeredShared) (r : OperationRecord) (pool : BrokeredPool) : Prop where
  reached : ∃ a threads, openAuthority C sampleDigests (fun _ => .ok ()) a.journal.file = .ok a ∧
    Relation.ReflTransGen (BrokeredStep C sampleDigests BrokeredCall fun _ _ => True) ⟨⟨a, .start⟩, []⟩ ⟨s, threads⟩
  record : r.operationId = sampleOperation ∧ s.authority.operations.get r.operationId = some r
  unrun : Unrun r.operationId s
  run : Relation.ReflTransGen (BrokeredStep C sampleDigests (RunCall sampleCallDigests r.operationId) condition) ⟨s, []⟩
    pool

theorem sampleRun_of_dry {condition : BrokeredOp → BrokeredShared → Prop} {check : BrokeredOp → BrokeredShared → Bool}
    (hcheck : ∀ op s, check op s = true → condition op s) {schedule : List Nat} {pool' : BrokeredPool}
    (h : drySampleRuns check schedule = some pool')
    (hlen : pool'.state.authority.journal.events.length ≤ maxEventLineBytes) :
    ∃ C s r a', SampleRun condition C s r ⟨⟨a', pool'.state.own⟩, pool'.threads⟩ ∧
      SameMemory a' pool'.state.authority := by
  obtain ⟨mid, hmid, hruns⟩ := Option.bind_eq_some_iff.mp h
  have hprepare (op : SharedOp BrokeredOp) (s : Shared BrokeredShared) (a : AuthorityState) (_ : SameMemory a s.authority)
      (hop : brokeredCheck (fun _ _ => true) op s = true) : brokeredAllowed (fun _ _ => True) op ⟨a, s.own⟩ :=
    allowed_of_brokeredCheck (fun _ _ _ => trivial) op s a hop
  have hauthorized (p : BrokeredProg Unit) (hp : p ∈ sampleAuthorized) (s : Shared BrokeredShared) :
      BrokeredCall p ∧ s = s := by
    refine ⟨?_, rfl⟩
    simp only [sampleAuthorized, List.mem_cons, List.not_mem_nil, or_false] at hp
    rcases hp with rfl | rfl | rfl
    · exact .request _
    · exact .request _
    · exact .register ..
  have hrun (p : BrokeredProg Unit) (hp : p ∈ [sampleRun, sampleRun]) (s : Shared BrokeredShared) :
      RunCall sampleCallDigests sampleOperation p ∧ s = s := by
    refine ⟨?_, rfl⟩
    simp only [List.mem_cons, List.not_mem_nil, or_false, or_self] at hp
    rw [hp]
    exact .run _ _ _ _ _ _ rfl
  have hstate : drySampleAuthorized.map (fun pool =>
      (pool.state.authority.operations.get sampleOperation).map OperationRecord.state) = some (some .authorized) := by
    decide +kernel
  have hfresh : drySampleAuthorized.map (fun pool =>
      (artifacts sampleOperation pool.state.authority.journal.events, receipts sampleOperation
        pool.state.authority.journal.events, pool.state.own.locked, pool.state.own.processing)) = some ([], [], [], []) := by
    decide +kernel
  have hcached : drySampleAuthorized.map (fun pool =>
      ((pool.state.own.executions.get? sampleOperation).isNone, pool.state.own.returned.isEmpty)) =
      some (true, true) := by
    decide +kernel
  rw [hmid] at hstate hfresh hcached
  have hboth : ∃ C a b a', openAuthority C sampleDigests (fun _ => .ok ()) a.journal.file = .ok a ∧
      Relation.ReflTransGen (BrokeredStep C sampleDigests BrokeredCall fun _ _ => True) ⟨⟨a, .start⟩, []⟩
        ⟨⟨b, mid.state.own⟩, mid.threads⟩ ∧ SameMemory b mid.state.authority ∧
      Relation.ReflTransGen (BrokeredStep C sampleDigests (RunCall sampleCallDigests sampleOperation) condition)
        ⟨⟨b, mid.state.own⟩, []⟩ ⟨⟨a', pool'.state.own⟩, pool'.threads⟩ ∧ SameMemory a' pool'.state.authority :=
    reaches_of_sharedDryRuns hprepare (fun op s a _ hop => allowed_of_brokeredCheck hcheck op s a hop) hauthorized hrun
      hmid hruns hlen
  obtain ⟨C, a, b, a', hopen, hreached, hsame, hruns', hsame'⟩ := hboth
  obtain ⟨r, hget, hrstate⟩ := Option.map_eq_some_iff.mp (Option.some.inj hstate)
  obtain ⟨hartifacts, hfresh⟩ := Prod.mk.inj (Option.some.inj hfresh)
  obtain ⟨hreceipts, hfresh⟩ := Prod.mk.inj hfresh
  obtain ⟨hlocked, hprocessing⟩ := Prod.mk.inj hfresh
  obtain ⟨hcached, hreturned⟩ := Prod.mk.inj (Option.some.inj hcached)
  rw [← hsame.operations] at hget
  rw [← hsame.events] at hartifacts hreceipts
  obtain hid : r.operationId = sampleOperation := OperationReducer.operationId_eq_of_get hget
  refine ⟨C, ⟨b, mid.state.own⟩, r, a', ⟨⟨a, mid.threads, hopen, hreached⟩, ⟨hid, hid ▸ hget⟩, ?_, hid ▸ hruns'⟩, hsame'⟩
  rw [hid]
  refine ⟨fun r' hr' => ?_, hartifacts, hreceipts, Option.isNone_iff_eq_none.mp hcached, hlocked, hprocessing,
    List.isEmpty_iff.mp hreturned⟩
  obtain rfl := Option.some.inj (hget.symm.trans hr')
  rw [hrstate]
  exact ⟨by decide, by decide, by decide⟩

/-- A first run and a retry. -/
theorem artifact_sound_retry :
    ∃ C s r pool, SampleRun Steady C s r pool ∧ pool.state.own.returned.length = 2 ∧
      (artifacts r.operationId pool.state.authority.journal.events).length = 1 ∧
      ArtifactSound sampleCallDigests r.operationId pool.state := by
  have hdry : (drySampleRuns (fun op s => Steady op s) (List.replicate 25 0 ++ List.replicate 10 1)).map
      (fun pool => (pool.state.own.returned.length, (artifacts sampleOperation pool.state.authority.journal.events).length,
        pool.state.authority.journal.events.length)) = some (2, 1, 11) := by decide +kernel
  obtain ⟨pool, hpool, hobserved⟩ := Option.map_eq_some_iff.mp hdry
  simp only [Prod.mk.injEq] at hobserved
  obtain ⟨hreturned, hartifacts, hlength⟩ := hobserved
  obtain ⟨C, s, r, a', hsample, hsame⟩ := sampleRun_of_dry (fun _ _ h => of_decide_eq_true h) hpool
    (by rw [hlength]; decide)
  refine ⟨C, s, r, _, hsample, hreturned, ?_, ?_⟩
  · rw [hsample.record.1, hsame.events]
    exact hartifacts
  · exact artifact_sound C sampleDigests sampleCallDigests s r hsample.record.2 hsample.unrun _ hsample.run

/-- Two calls find that the artifact is to be accepted, and both accept it. -/
theorem artifact_accepted_twice :
    ∃ C s r, (∃ pool, SampleRun (fun _ _ => True) C s r pool) ∧
      ¬∀ pool, Relation.ReflTransGen (BrokeredStep C sampleDigests (RunCall sampleCallDigests r.operationId)
        fun _ _ => True) ⟨s, []⟩ pool → ArtifactSound sampleCallDigests r.operationId pool.state := by
  have hdry : (drySampleRuns (fun _ _ => true)
      (List.replicate 14 0 ++ List.replicate 4 1 ++ List.replicate 4 0 ++ List.replicate 3 1)).map
      (fun pool => ((artifacts sampleOperation pool.state.authority.journal.events).length,
        pool.state.authority.journal.events.length)) = some (2, 10) := by decide +kernel
  obtain ⟨pool, hpool, hobserved⟩ := Option.map_eq_some_iff.mp hdry
  obtain ⟨hartifacts, hlength⟩ := Prod.mk.inj hobserved
  have htrue (op : BrokeredOp) (s : BrokeredShared) (_ : true = true) :
      (fun _ _ => True : BrokeredOp → BrokeredShared → Prop) op s := trivial
  obtain ⟨C, s, r, a', hsample, hsame⟩ := sampleRun_of_dry htrue hpool (by rw [hlength]; decide)
  refine ⟨C, s, r, ⟨_, hsample⟩, fun h => ?_⟩
  have hone := (h _ hsample.run).artifact
  rw [hsample.record.1, hsame.events, hartifacts] at hone
  exact absurd hone (by decide)

end HyperTerm.Daemon.Brokered
