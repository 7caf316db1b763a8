import HyperTerm.Daemon.Consistency
import HyperTerm.Daemon.Decision

/-!
# What a restart can still move

Opening the daemon reconciles the operations that were dispatched and the commands that were authorized
(`run_reconcile`). An operation that a crash left in the middle of its proposal or of its decision it leaves alone,
and nothing moves it any more; `not_wedged_iff` says exactly which journals have no such operation.
-/

namespace HyperTerm.Daemon
open HyperTerm.Protocol HyperTerm.Core HyperTerm.Lib

variable {C : LineCodec EventEnvelope} {D : Digests} {a a' : AuthorityState}

def OperationRecord.moved (r : OperationRecord) (toState : OperationState) : OperationRecord :=
  { r with revision := r.revision + 1, state := toState }

/-! ## One transition, undisturbed -/

/-- The effect of an accepted transition. -/
structure Transition (D : Digests) (a a' : AuthorityState) (r : OperationRecord) (toState : OperationState) : Prop where
  found : a.operations.get r.operationId = some r
  operations : a'.operations = a.operations.put (OperationRecord.moved r toState)
  blocks : ∀ taskId blockId, blockKind a'.projectors taskId blockId = blockKind a.projectors taskId blockId
  others : ∀ taskId blockId, blockId ≠ stableBlockId D "operation" r.operationId.uuid.text →
    blockAt a'.projectors taskId blockId = blockAt a.projectors taskId blockId
  consistent : Consistent D a → Consistent D a'

theorem record_transition {env : RecordEnv} {taskId : TaskId} {id : OperationId} {revision : Nat}
    {fromState toState : OperationState} {actor : Actor} {reason : Option String} {x : EventEnvelope × BlockPatch}
    (h : a.record C D env (Method.operationEvent taskId id
      (.operationStateChanged revision fromState toState actor reason)) = (a', .ok x)) :
    ∃ r, r.operationId = id ∧ revision = r.revision + 1 ∧ Transition D a a' r toState := by
  have hout := a.record_outcome (C := C) (D := D) env
    (Method.operationEvent taskId id (.operationStateChanged revision fromState toState actor reason))
  have hconsistent (hc : Consistent D a) := hc.record (C := C) env
    (Method.operationEvent taskId id (.operationStateChanged revision fromState toState actor reason))
  rw [h] at hout hconsistent
  cases hout with
  | recorded envelope operations projector patch henv htask hops hproj hio hlen =>
      have hpayload : envelope.payload = .operationStateChanged revision fromState toState actor reason :=
        henv.payload
      have hid : envelope.operationId = some id := henv.operationId
      have hkey : projector.taskId = taskId :=
        (BlockProjector.apply_taskId hproj).trans (projectorFor_taskId _ _)
      have hprojector : ∃ p, a.projectors.get? taskId = some p := by
        cases hp : a.projectors.get? taskId with
        | none => exact absurd (htask.mpr hp) (by simp [Method.operationEvent, DomainEvent.isTaskCreated])
        | some p => exact ⟨p, rfl⟩
      obtain ⟨p, hp⟩ := hprojector
      obtain ⟨-, -, q, blocks, hq, rfl, -⟩ := BlockProjector.apply_eq_ok.mp hproj
      change (projectorFor a.projectors taskId).applyPayload D envelope = _ at hq
      rw [projectorFor, hp, Option.getD_some] at hq
      have hkinds (taskId' : TaskId) (blockId : BlockId) :
          blockKind (a.projectors.put { q with revision := envelope.sequence }) taskId' blockId =
            blockKind a.projectors taskId' blockId := by
        rw [blockKind, blockKind, Keyed.get?_put, hkey]
        split_ifs with htaskId
        · rw [htaskId, hp]
          exact BlockProjector.kindAt_stateChanged hpayload hq blockId
        · rfl
      have hothers (taskId' : TaskId) (blockId : BlockId) (hne : blockId ≠ stableBlockId D "operation" id.uuid.text) :
          blockAt (a.projectors.put { q with revision := envelope.sequence }) taskId' blockId =
            blockAt a.projectors taskId' blockId := by
        rw [blockAt, blockAt, Keyed.get?_put, hkey]
        split_ifs with htaskId
        · rw [htaskId, hp]
          exact BlockProjector.get?_stateChanged_of_ne hpayload hid hq hne
        · rfl
      cases OperationReducer.apply_cases hops with
      | proposed _ _ _ _ _ _ hp => cases hpayload.symm.trans hp
      | requested _ _ _ _ hp => cases hpayload.symm.trans hp
      | decided _ _ _ hp => cases hpayload.symm.trans hp
      | other _ hmoved => exact absurd hpayload (hmoved _ _ _ _ _)
      | moved r _ _ _ hp' hid' hget hvalid =>
          obtain ⟨rfl, -, rfl, -, -⟩ := DomainEvent.operationStateChanged.inj (hpayload.symm.trans hp')
          obtain rfl := Option.some.inj (hid.symm.trans hid')
          exact ⟨r, rfl, rfl, hget, rfl, hkinds, hothers, hconsistent⟩

theorem run_bind_ok {α β : Type} {m : Method α} {f : α → Method β} {y : β}
    (h : (m >>= f).run (execAuthority C D) a = (a', .ok y)) :
    ∃ b x, m.run (execAuthority C D) a = (b, .ok x) ∧ (f x).run (execAuthority C D) b = (a', .ok y) := by
  rw [Prog.run_bind] at h
  split at h
  case h_1 b x hm => exact ⟨b, x, hm, h⟩
  case h_2 b e hm => exact nomatch (Prod.mk.inj h).2

theorem run_lift {α : Type} {r : Except DaemonError α} {x : α}
    (h : (Method.lift r).run (execAuthority C D) a = (a', .ok x)) : a' = a ∧ r = .ok x := by
  obtain ⟨ha, hr⟩ := Prod.mk.inj h
  exact ⟨ha.symm, hr⟩

theorem run_read {x : OperationReducer × Projectors}
    (h : Method.read.run (execAuthority C D) a = (a', .ok x)) : a' = a ∧ x = (a.operations, a.projectors) := by
  obtain ⟨ha, hx⟩ := Prod.mk.inj h
  exact ⟨ha.symm, (Except.ok.inj hx).symm⟩

theorem run_operation {id : OperationId} {r : OperationRecord}
    (h : (Method.operation id).run (execAuthority C D) a = (a', .ok r)) : a' = a ∧ a.operations.get id = some r := by
  obtain ⟨b, x, hread, h⟩ := run_bind_ok h
  obtain ⟨rfl, rfl⟩ := run_read hread
  obtain ⟨rfl, hr⟩ := run_lift h
  exact ⟨rfl, okOr_eq_ok.mp hr⟩

theorem run_record {env : RecordEnv} {event : NewEvent} {u : Unit}
    (h : (Method.record env event).run (execAuthority C D) a = (a', .ok u)) :
    ∃ x, a.record C D env event = (a', .ok x) := by
  obtain ⟨b, x, hrecord, h⟩ := run_bind_ok h
  obtain ⟨rfl, hx⟩ := run_lift h
  obtain ⟨rfl, hresult⟩ := Prod.mk.inj hrecord
  cases x with
  | error e => exact nomatch hx
  | ok y => exact ⟨y, Prod.ext rfl (Except.ok.inj hresult)⟩

theorem run_transition {env : RecordEnv} {taskId : TaskId} {id : OperationId} {revision : Nat}
    {toState : OperationState} {actor : Actor} {reason : Option String} {r' : OperationRecord}
    (h : (transition env taskId id revision toState actor reason).run (execAuthority C D) a = (a', .ok r')) :
    ∃ r, r.operationId = id ∧ Transition D a a' r toState := by
  obtain ⟨b, current, hcurrent, h₁⟩ := run_bind_ok h
  obtain ⟨rfl, -⟩ := run_operation hcurrent
  obtain ⟨b', _, hscope, h₂⟩ := run_bind_ok h₁
  obtain ⟨rfl, -⟩ := run_lift hscope
  obtain ⟨c, _, hrecord, h₃⟩ := run_bind_ok h₂
  obtain ⟨rfl, -⟩ := run_operation h₃
  obtain ⟨x, hx⟩ := run_record hrecord
  obtain ⟨r, hid, -, ht⟩ := record_transition hx
  exact ⟨r, hid, ht⟩

/-! ## Reconciliation -/

/-- Transitions of some operations of `a`, and nothing else. -/
structure Reconciled (D : Digests) (a a' : AuthorityState) (moves : OperationRecord → Option OperationState) :
    Prop where
  operations : ∀ id, a'.operations.get id = (a.operations.get id).map fun r => (moves r).elim r (OperationRecord.moved r)
  blocks : ∀ taskId blockId, blockKind a'.projectors taskId blockId = blockKind a.projectors taskId blockId
  consistent : Consistent D a → Consistent D a'

theorem run_reconcileEach {env : Nat → RecordEnv} {target : OperationState} {reason : String} {u : Unit}
    {records : List OperationRecord} (hnodup : (records.map OperationRecord.operationId).Nodup)
    (hrecords : ∀ r ∈ records, a.operations.get r.operationId = some r)
    (h : (reconcileEach env target reason records).run (execAuthority C D) a = (a', .ok u)) :
    Reconciled D a a' fun r => if r ∈ records then some target else none := by
  induction records generalizing a env with
  | nil =>
      obtain ⟨rfl, -⟩ := Prod.mk.inj h
      exact ⟨fun id => by simp, fun _ _ => rfl, fun h => h⟩
  | cons current records ih =>
      obtain ⟨b, _, htransition, hrun⟩ := run_bind_ok h
      obtain ⟨r, hid, ht⟩ := run_transition htransition
      rw [List.map_cons, List.nodup_cons] at hnodup
      rw [List.forall_mem_cons] at hrecords
      obtain rfl : r = current := Option.some.inj (ht.found.symm.trans (hid ▸ hrecords.1))
      have hrest : ∀ r' ∈ records, b.operations.get r'.operationId = some r' := by
        intro r' hr'
        rw [ht.operations, OperationReducer.get_put, if_neg, hrecords.2 r' hr']
        exact fun heq => hnodup.1 (heq ▸ List.mem_map_of_mem hr')
      obtain ⟨hops, hblocks, hconsistent⟩ := ih hnodup.2 hrest hrun
      refine ⟨fun id => ?_, fun t k => (hblocks t k).trans (ht.blocks t k), fun hc => hconsistent (ht.consistent hc)⟩
      rw [hops, ht.operations, OperationReducer.get_put]
      split_ifs with heq
      · -- The operation just moved is not among the rest, not even with its old record.
        have hnot : OperationRecord.moved r target ∉ records := fun hmem =>
          hnodup.1 (List.mem_map.mpr ⟨_, hmem, rfl⟩)
        subst heq
        rw [show OperationRecord.operationId (OperationRecord.moved r target) = r.operationId from rfl, ht.found]
        simp [hnot]
      · refine Option.map_congr fun r' hr' => ?_
        have hne : r' ≠ r := by
          rintro rfl
          exact heq (OperationReducer.operationId_eq_of_get hr').symm
        simp [hne]

/-- A reconciliation of all operations that the given test selects. -/
theorem run_reconcileAll {env : Nat → RecordEnv} {target : OperationState} {reason : String} {u : Unit}
    {order : List OperationRecord → List OperationRecord} (horder : ∀ l, (order l).Perm l)
    {selects : OperationRecord → Bool}
    (h : (reconcileEach env target reason ((order a.operations.records.values).filter selects)).run
      (execAuthority C D) a = (a', .ok u)) :
    Reconciled D a a' fun r => if selects r then some target else none := by
  have hmem (r : OperationRecord) : r ∈ (order a.operations.records.values).filter selects ↔
      a.operations.get r.operationId = some r ∧ selects r = true := by
    rw [List.mem_filter, (horder _).mem_iff, Keyed.mem_values]
    rfl
  have hnodup : (((order a.operations.records.values).filter selects).map OperationRecord.operationId).Nodup := by
    have hall := ((horder a.operations.records.values).map OperationRecord.operationId).nodup_iff.mpr
      a.operations.records.nodup_values
    exact hall.sublist (List.filter_sublist.map _)
  obtain ⟨hops, hblocks, hconsistent⟩ := run_reconcileEach hnodup (fun r hr => ((hmem r).mp hr).1) h
  refine ⟨fun id => (hops id).trans (Option.map_congr fun r hget => ?_), hblocks, hconsistent⟩
  have hid := OperationReducer.operationId_eq_of_get hget
  by_cases hselects : selects r = true
  · rw [if_pos ((hmem r).mpr ⟨hid ▸ hget, hselects⟩), if_pos hselects]
  · rw [if_neg fun hr => hselects ((hmem r).mp hr).2, if_neg hselects]

/-- The last two steps of `open_with_sandbox_launcher`. -/
def reconcile (env env' : Nat → RecordEnv) (order order' : List OperationRecord → List OperationRecord) :
    Method Unit := do
  reconcileInterruptedDispatches env order
  reconcileUnrecoverableSandboxAuthorizations env' order'

/-- What a restart makes of an operation. -/
def restarted (r : OperationRecord) : OperationRecord :=
  if r.state = .dispatching then OperationRecord.moved r .unknownExecution
  else if r.state = .authorized ∧ OperationAction.isShell r.action then OperationRecord.moved r .failed
  else r

theorem run_reconcile {env env' : Nat → RecordEnv} {order order' : List OperationRecord → List OperationRecord}
    {u : Unit} (horder : ∀ l, (order l).Perm l) (horder' : ∀ l, (order' l).Perm l)
    (h : (reconcile env env' order order').run (execAuthority C D) a = (a', .ok u)) :
    (∀ id, a'.operations.get id = (a.operations.get id).map restarted) ∧
      (∀ taskId blockId, blockKind a'.projectors taskId blockId = blockKind a.projectors taskId blockId) ∧
      (Consistent D a → Consistent D a') := by
  obtain ⟨b, _, hdispatches, hauthorizations⟩ := run_bind_ok h
  obtain ⟨c, x, hread, h₁⟩ := run_bind_ok hdispatches
  obtain ⟨rfl, rfl⟩ := run_read hread
  obtain ⟨d, y, hread', h₂⟩ := run_bind_ok hauthorizations
  obtain ⟨rfl, rfl⟩ := run_read hread'
  obtain ⟨hops, hblocks, hconsistent⟩ := run_reconcileAll horder h₁
  obtain ⟨hops', hblocks', hconsistent'⟩ := run_reconcileAll horder' h₂
  refine ⟨fun id => ?_, fun t k => (hblocks' t k).trans (hblocks t k), fun hc => hconsistent' (hconsistent hc)⟩
  rw [hops', hops, Option.map_map]
  refine Option.map_congr fun r _ => ?_
  unfold restarted
  by_cases hdispatching : r.state = .dispatching
  · simp [hdispatching, OperationRecord.moved]
  · by_cases hshell : r.state = .authorized ∧ OperationAction.isShell r.action = true
    · simp [hshell]
    · simp [hdispatching, hshell]

/-! ## Which operations are stuck -/

def OperationState.isTerminal : OperationState → Bool
  | .succeeded | .failed | .violated | .cancelled => true
  | _ => false

/-- The operation has come to an end, or a decision or a dispatch would be journalled. -/
def NotWedged (D : Digests) (a : AuthorityState) (r : OperationRecord) : Prop :=
  OperationState.isTerminal r.state = true ∨ r.state = .unknownExecution ∨
    (r.state = .waitingHuman ∧ ∃ decision, Accepts D a (Method.operationEvent r.taskId r.operationId
      (.permissionDecided r.revision decision .user))) ∨
    (r.state = .authorized ∧ OperationAction.isShell r.action = false ∧
      Accepts D a (Method.operationEvent r.taskId r.operationId
        (.operationStateChanged (r.revision + 1) .authorized .dispatching .system
          (some "brokered executor accepted the authorized operation"))))

/-- No crash has cut its proposal or its decision short: it is past the policy check, and if it waits for a decision
there is none yet and it has been asked for. -/
def Recoverable (D : Digests) (a : AuthorityState) (r : OperationRecord) : Prop :=
  r.state ≠ .proposed ∧ r.state ≠ .policyCheck ∧
    (r.state = .waitingHuman → r.permissionDecision = none ∧ HasApproval D a r)

theorem notWedged_iff {r : OperationRecord} (h : Consistent D a) (hget : a.operations.get r.operationId = some r) :
    NotWedged D a r ↔ OperationState.isTerminal r.state = true ∨ r.state = .unknownExecution ∨
      (r.state = .waitingHuman ∧ r.permissionDecision = none ∧ HasApproval D a r) ∨
      (r.state = .authorized ∧ OperationAction.isShell r.action = false) := by
  have hbegin (hstate : r.state = .authorized) : Accepts D a (Method.operationEvent r.taskId r.operationId
      (.operationStateChanged (r.revision + 1) .authorized .dispatching .system
        (some "brokered executor accepted the authorized operation"))) := by
    have hvalid : validTransition r.state .dispatching = true := by
      rw [hstate]
      rfl
    rw [← hstate]
    exact accepts_transition h hget hvalid _
  unfold NotWedged
  simp only [accepts_decision_iff h hget]
  constructor
  · rintro (hterminal | hunknown | ⟨-, -, hwaiting⟩ | ⟨hstate, hshell, -⟩)
    · exact Or.inl hterminal
    · exact Or.inr (Or.inl hunknown)
    · exact Or.inr (Or.inr (Or.inl hwaiting))
    · exact Or.inr (Or.inr (Or.inr ⟨hstate, hshell⟩))
  · rintro (hterminal | hunknown | hwaiting | ⟨hstate, hshell⟩)
    · exact Or.inl hterminal
    · exact Or.inr (Or.inl hunknown)
    · exact Or.inr (Or.inr (Or.inl ⟨hwaiting.1, .allowOnce, hwaiting⟩))
    · exact Or.inr (Or.inr (Or.inr ⟨hstate, hshell, hbegin hstate⟩))

theorem notWedged_restarted_iff {r : OperationRecord} (hconsistent : Consistent D a')
    (hblocks : ∀ taskId blockId, blockKind a'.projectors taskId blockId = blockKind a.projectors taskId blockId)
    (hget : a'.operations.get (restarted r).operationId = some (restarted r)) :
    NotWedged D a' (restarted r) ↔ Recoverable D a r := by
  rw [notWedged_iff hconsistent hget]
  unfold Recoverable HasApproval restarted
  cases hstate : r.state <;> simp [hblocks, hstate, OperationRecord.moved, OperationState.isTerminal]
  -- An authorized operation is left only when it is no command; a command has failed.
  by_cases hshell : OperationAction.isShell r.action = true <;> simp [hshell, hstate]

/-! ## After a crash -/

variable {readArtifact : AcceptedGenUiArtifact → Except String Unit}

/-- A journal that a crash leaves in some run, what opening finds on it, and what reconciliation makes of that. -/
structure Reopened (C : LineCodec EventEnvelope) (D : Digests)
    (readArtifact : AcceptedGenUiArtifact → Except String Unit) (a a' : AuthorityState) : Prop where
  crashed : ∃ pool : DaemonPool, Relation.ReflTransGen (DaemonStep C D readArtifact) .start pool ∧
    openAuthority C D readArtifact pool.state.journal.file = .ok a ∧ a.journal.events = pool.state.journal.events
  reconciled : ∃ env env' order order', (∀ l, (order l).Perm l) ∧ (∀ l, (order' l).Perm l) ∧
    (reconcile env env' order order').run (execAuthority C D) a = (a', .ok ())

theorem consistent_run {pool : DaemonPool} (hrun : Relation.ReflTransGen (DaemonStep C D readArtifact) .start pool) :
    Consistent D pool.state := by
  induction hrun with
  | refl => exact consistent_empty D
  | tail hrun hstep ih =>
      cases hstep with
      | work h =>
          refine h.state (fun op s hs => ?_) ih
          cases op with
          | read => exact hs
          | record env event => exact hs.record env event
      | reopen a hopen hevents =>
          obtain ⟨hops, hprojectors⟩ :=
            operations_of_openAuthority hopen hevents (decisionInv_run hrun).1.folded
          refine ⟨fun t p hp => ih.typed t p (hprojectors ▸ hp), fun t p hp => ?_, fun id r hget => ?_⟩
          · rw [JsonlJournal.lastSequence, hevents]
            exact ih.behind t p (hprojectors ▸ hp)
          · rw [hprojectors]
            exact ih.filed id r (hops ▸ hget)

/-- **When a restart leaves nothing stuck.** After a crash at any point of any run, and after opening has reconciled
the journal, every operation has ended or can be moved on by a request if and only if the journal has no operation
whose proposal or decision was cut short. -/
theorem not_wedged_iff (C : LineCodec EventEnvelope) (D : Digests)
    (readArtifact : AcceptedGenUiArtifact → Except String Unit) (a a' : AuthorityState)
    (h : Reopened C D readArtifact a a') :
    (∀ id r, a'.operations.get id = some r → NotWedged D a' r) ↔
      ∀ id r, a.operations.get id = some r → Recoverable D a r := by
  obtain ⟨⟨pool, hrun, hopen, hevents⟩, env, env', order, order', horder, horder', hreconcile⟩ := h
  have hconsistent : Consistent D a := consistent_run (hrun.tail (.reopen a hopen hevents))
  obtain ⟨hops, hblocks, hkeeps⟩ := run_reconcile horder horder' hreconcile
  have hid (r : OperationRecord) : (restarted r).operationId = r.operationId := by
    unfold restarted
    split_ifs <;> rfl
  have hiff (id : OperationId) (r : OperationRecord) (hget : a.operations.get id = some r) :
      NotWedged D a' (restarted r) ↔ Recoverable D a r := by
    refine notWedged_restarted_iff (hkeeps hconsistent) hblocks ?_
    rw [hid, OperationReducer.operationId_eq_of_get hget, hops, hget, Option.map_some]
  constructor
  · intro hall id r hget
    refine (hiff id r hget).mp (hall id _ ?_)
    rw [hops, hget, Option.map_some]
  · intro hall id r' hget'
    rw [hops] at hget'
    obtain ⟨r, hget, rfl⟩ := Option.map_eq_some_iff.mp hget'
    exact (hiff id r hget).mpr (hall id r hget)

/-- Nothing is dispatched or authorized. -/
def Idle (operations : OperationReducer) : Bool :=
  operations.records.values.all fun r => r.state ≠ .dispatching && r.state ≠ .authorized

theorem run_reconcile_idle {env env' : Nat → RecordEnv} (h : Idle a.operations = true) :
    (reconcile env env' (fun l => l) (fun l => l)).run (execAuthority C D) a = (a, .ok ()) := by
  rw [Idle, List.all_eq_true] at h
  have hdispatching : a.operations.records.values.filter (fun r => decide (r.state = .dispatching)) = [] :=
    List.filter_eq_nil_iff.mpr fun r hr => by simpa using (Bool.and_eq_true_iff.mp (h r hr)).1
  have hauthorized : a.operations.records.values.filter
      (fun r => decide (r.state = .authorized ∧ OperationAction.isShell r.action = true)) = [] :=
    List.filter_eq_nil_iff.mpr fun r hr hc => by
      have := (Bool.and_eq_true_iff.mp (h r hr)).2
      simp_all
  have hfirst : (reconcileInterruptedDispatches env fun l => l).run (execAuthority C D) a = (a, .ok ()) := by
    change (reconcileEach env _ _ (a.operations.records.values.filter _)).run (execAuthority C D) a = _
    rw [hdispatching]
    rfl
  have hsecond : (reconcileUnrecoverableSandboxAuthorizations env' fun l => l).run (execAuthority C D) a =
      (a, .ok ()) := by
    change (reconcileEach env' _ _ (a.operations.records.values.filter _)).run (execAuthority C D) a = _
    rw [hauthorized]
    rfl
  rw [reconcile, Prog.run_bind, hfirst]
  exact hsecond

theorem reopened_of_dryRun {threads : List (Method Unit)} {schedule : List Nat} {pool' : DaemonPool}
    (hthreads : ∀ m ∈ threads, Request m) (h : dryRun D threads schedule = some pool')
    (hlen : pool'.state.journal.events.length ≤ maxEventLineBytes) (hidle : Idle pool'.state.operations = true) :
    ∃ a, Reopened (.short pool'.state.journal.events) D (fun _ => .ok ()) a a ∧ SameMemory a pool'.state := by
  obtain ⟨a, hrun, hsame, hopened⟩ := reaches_of_dryRun hthreads h hlen
  refine ⟨a, ⟨⟨_, DaemonStep.of_work hrun, hopened, rfl⟩, sampleEnv, sampleEnv, _, _, fun l => .refl l,
    fun l => .refl l, run_reconcile_idle (hsame.operations ▸ hidle)⟩, hsame⟩

/-- A journal on which a proposal is complete leaves nothing stuck. -/
theorem not_wedged_iff_proposed :
    ∃ (C : LineCodec EventEnvelope) (a : AuthorityState),
      (a.operations.get sampleOperation).map OperationRecord.state = some .waitingHuman ∧
      ((∀ id r, a.operations.get id = some r → NotWedged sampleDigests a r) ↔
        ∀ id r, a.operations.get id = some r → Recoverable sampleDigests a r) ∧
      Reopened C sampleDigests (fun _ => .ok ()) a a := by
  have hdry : (dryRun sampleDigests [sampleCreate, samplePropose.discard] (0 :: List.replicate 9 1)).map
      (fun pool => ((pool.state.operations.get sampleOperation).map OperationRecord.state,
        pool.state.journal.events.length, Idle pool.state.operations)) = some (some .waitingHuman, 5, true) := by
    decide +kernel
  obtain ⟨pool, hpool, hobserved⟩ := Option.map_eq_some_iff.mp hdry
  simp only [Prod.mk.injEq] at hobserved
  obtain ⟨hstate, hlength, hidle⟩ := hobserved
  obtain ⟨a, hreopened, hsame⟩ := reopened_of_dryRun (by
    simp only [List.forall_mem_cons, List.not_mem_nil, false_imp_iff, implies_true, and_true]
    exact ⟨request_sampleCreate, .propose ..⟩) hpool (by rw [hlength]; decide) hidle
  exact ⟨_, a, hsame.operations ▸ hstate, not_wedged_iff _ _ _ _ _ hreopened, hreopened⟩

def NeverWedged (C : LineCodec EventEnvelope) (D : Digests)
    (readArtifact : AcceptedGenUiArtifact → Except String Unit) : Prop :=
  ∀ a a', Reopened C D readArtifact a a' → ∀ id r, a'.operations.get id = some r → NotWedged D a' r

/-- A crash right after the first event of a proposal leaves an operation that nothing can move. -/
theorem crashed_proposal_wedged : ∃ C, ¬NeverWedged C sampleDigests (fun _ => .ok ()) := by
  have hdry : (dryRun sampleDigests [sampleCreate, samplePropose.discard] [0, 1, 1]).map
      (fun pool => ((pool.state.operations.get sampleOperation).map OperationRecord.state,
        pool.state.journal.events.length, Idle pool.state.operations)) = some (some .proposed, 2, true) := by
    decide
  obtain ⟨pool, hpool, hobserved⟩ := Option.map_eq_some_iff.mp hdry
  simp only [Prod.mk.injEq] at hobserved
  obtain ⟨hstate, hlength, hidle⟩ := hobserved
  obtain ⟨a, hreopened, hsame⟩ := reopened_of_dryRun (by
    simp only [List.forall_mem_cons, List.not_mem_nil, false_imp_iff, implies_true, and_true]
    exact ⟨request_sampleCreate, .propose ..⟩) hpool (by rw [hlength]; decide) hidle
  refine ⟨.short pool.state.journal.events, fun h => ?_⟩
  rw [← hsame.operations] at hstate
  obtain ⟨r, hget, hr⟩ := Option.map_eq_some_iff.mp hstate
  have hnot := h a a hreopened sampleOperation r hget
  simp [NotWedged, hr, OperationState.isTerminal] at hnot

end HyperTerm.Daemon
