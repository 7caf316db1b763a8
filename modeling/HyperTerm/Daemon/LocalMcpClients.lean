import HyperTerm.Daemon.LocalMcpInvariant
import HyperTerm.Daemon.SharedRun

/-!
# Every run of the manager of local MCP servers

Each request keeps the invariant with what it holds at every point, so `clientsSound_of_undisturbed` holds in every run
whose steps are `Undisturbed`. In `disturbed_launch` a close meets a launch halfway, and a client outlives it.
-/

namespace HyperTerm.Daemon
open HyperTerm.Protocol HyperTerm.Core HyperTerm.Lib

variable {C : LineCodec EventEnvelope} {D : Digests} {m : McpTokens} {s : Shared McpWorld}

/-! ## The requests -/

abbrev McpHolds {α : Type} (C : LineCodec EventEnvelope) (D : Digests) (p : McpProg α)
    (P : Except LocalMcpRuntimeError α → McpTokens → Prop) (own : McpTokens) : Prop :=
  p.Holds (execShared C D execMcp) (mcpAllowed Undisturbed) mcpInv P own

variable {α β : Type} {own : McpTokens}

theorem mcp_own {op : McpOp} {P : Except LocalMcpRuntimeError (McpAns op) → McpTokens → Prop}
    (h : ∀ s rest, mcpInv (rest + own) s → op.ready s.own = true → Undisturbed op s.own →
      ∃ own', own'.1 ≤ own.1 ∧ McpInv (rest + own') { s with own := (execMcp op s.own).1 } ∧
        P (.ok (execMcp op s.own).2) own') : McpHolds C D (McpProg.own op) P own :=
  holds_own fun s rest hi hallowed => h s rest hi hallowed.1 hallowed.2

theorem mcp_lift_bind {r : Except LocalMcpRuntimeError α} {f : α → McpProg β}
    {P : Except LocalMcpRuntimeError β → McpTokens → Prop} (herr : ∀ e, r = .error e → P (.error e) own)
    (hok : ∀ x, r = .ok x → McpHolds C D (f x) P own) : McpHolds C D (McpProg.lift r >>= f) P own := by
  cases r with
  | ok x => exact hok x rfl
  | error e => exact herr e rfl

theorem McpHolds.discard {p : McpProg α} (h : McpHolds C D p (fun _ _ => True) own) :
    McpHolds C D p.discard (fun _ _ => True) own :=
  Prog.Holds.bind h (fun _ _ _ => trivial) fun _ _ _ => trivial

/-- An operation that changes nothing but how the clients are held. -/
theorem mcp_quiet {op : McpOp} {P : Except LocalMcpRuntimeError (McpAns op) → McpTokens → Prop}
    (h : ∀ m s, McpInv m s → op.ready s.own = true → McpInv m { s with own := (execMcp op s.own).1 })
    (hP : ∀ answer, P (.ok answer) own) : McpHolds C D (McpProg.own op) P own :=
  mcp_own fun s rest hi hready _ => ⟨own, le_refl _, h _ _ hi.2 hready, hP _⟩

theorem mcp_unlock {manager : ManagerState} {P : Except LocalMcpRuntimeError Unit → McpTokens → Prop}
    (hP : P (.ok ()) own) : McpHolds C D (McpProg.own .unlock) P (own + tok (.lock manager)) := by
  refine mcp_own fun s rest hi _ _ => ⟨own, by simp, ?_, hP⟩
  rw [← add_assoc] at hi
  exact hi.2.unlock

theorem unlocked_of_ready {op : McpOp} {w : McpWorld} (hready : op.ready w = true)
    (h : op.ready w = !w.locked) : w.locked = false := by
  rw [h] at hready
  simpa using hready

/-- The lock is taken for a proposal, or nothing happens. -/
theorem mcp_lockLaunch {taskId : TaskId} {serverId : String}
    {P : Except LocalMcpRuntimeError (Except LocalMcpRuntimeError LocalMcpServerLaunch) → McpTokens → Prop}
    (herr : ∀ e, P (.ok (.error e)) own)
    (hok : ∀ prepared manager, manager.clients.get? ⟨taskId, serverId⟩ = none →
      (∀ p, manager.pendingLaunches.get? p.operationId = some p → p.key ≠ ⟨taskId, serverId⟩) →
      P (.ok (.ok prepared)) (own + tok (.lock manager))) :
    McpHolds C D (McpProg.own (.lockLaunch taskId serverId)) P own := by
  refine mcp_own fun s rest hi hready _ => ?_
  have hlocked := unlocked_of_ready hready rfl
  simp only [execMcp]
  split_ifs with hactive
  · exact ⟨own, le_refl _, hi.2, herr _⟩
  cases hregistered : s.own.manager.registered.get? serverId with
  | none => exact ⟨own, le_refl _, hi.2, herr _⟩
  | some prepared =>
      rw [not_or, Option.not_isSome_iff_eq_none] at hactive
      refine ⟨own + tok (.lock s.own.manager), by simp, ?_, hok prepared _ hactive.1 fun p hp hkey => hactive.2 ?_⟩
      · rw [← add_assoc]
        exact hi.2.takeLock hlocked
      · have hkey' : p.taskId = taskId ∧ p.serverId = serverId := RuntimeKey.mk.inj hkey
        exact List.any_eq_true.mpr ⟨p, Keyed.mem_values.mpr hp, decide_eq_true hkey'⟩

/-- Nobody is charged with an operation that has just been proposed. -/
theorem not_charged_of_fresh {id : OperationId} (h : mcpInv (m + tok (.fresh id)) s) :
    ∀ c ∈ m.1, c.operationId ≠ id := by
  rintro c hc rfl
  obtain ⟨⟨r, hget, -, -, hstate, hnone⟩, -⟩ := h.2.token _ mem_tok
  obtain ⟨r', hget', hof, -⟩ := h.1.exact c (Multiset.mem_add.mpr (Or.inl hc))
  obtain rfl := Option.some.inj (hget'.symm.trans hget)
  rcases hof.decided.mp hnone with h | h <;> cases hstate.symm.trans h

theorem mcp_lockCall {key : RuntimeKey}
    {P : Except LocalMcpRuntimeError (Except LocalMcpRuntimeError LocalMcpClient) → McpTokens → Prop}
    (herr : ∀ e, P (.ok (.error e)) own) (hok : ∀ client manager, P (.ok (.ok client)) (own + tok (.lock manager))) :
    McpHolds C D (McpProg.own (.lockCall key)) P own := by
  refine mcp_own fun s rest hi hready _ => ?_
  have hlocked := unlocked_of_ready hready rfl
  simp only [execMcp]
  cases hclient : s.own.manager.clients.get? key with
  | none => exact ⟨own, le_refl _, hi.2, herr _⟩
  | some client =>
      by_cases hbusy : client.operationId ∈ s.own.busy
      · simp only [if_pos hbusy]
        exact ⟨own, le_refl _, hi.2, herr _⟩
      · simp only [if_neg hbusy]
        refine ⟨own + tok (.lock s.own.manager), by simp, ?_, hok client _⟩
        rw [← add_assoc]
        exact hi.2.takeLock hlocked

/-- The proposal of an operation under the lock. -/
theorem mcp_propose {checks : ProposalChecks} {env : Nat → RecordEnv} {operationId : OperationId} {taskId : TaskId}
    {kind : OperationKind} {action : OperationAction} {summary : String} {risk : RiskClass} {capabilities : List String}
    {manager : ManagerState} {f : Except DaemonError OperationRecord → McpProg α} (hours : localMcp action)
    (herr : ∀ e more, McpHolds C D (f (.error e)) (fun _ _ => True) (own + more + tok (.lock manager)))
    (hok : ∀ operation, McpHolds C D (f (.ok operation)) (fun _ _ => True)
      (own + tok (.fresh operation.operationId) + tok (.lock manager))) :
    McpHolds C D (daemonCall (proposeOperation checks env operationId taskId kind action summary risk capabilities) >>= f)
      (fun _ _ => True) (own + tok (.lock manager)) := by
  refine Prog.Holds.bind (Q := fun r own' => ∀ proposed, r = .ok proposed →
    McpHolds C D (f proposed) (fun _ _ => True) own') ?_ (fun proposed own' h => h proposed rfl) fun _ _ _ => trivial
  refine holds_daemonCall (charged_proposeOperation charging_mcpInv hours ?_ ?_)
  · rintro e more _ heq
    obtain rfl := Except.ok.inj heq
    rw [add_right_comm]
    exact herr e more
  · rintro r rfl - - _ heq
    obtain rfl := Except.ok.inj heq
    rw [add_right_comm]
    exact hok r

/-- The entry of an operation that has been proposed under the lock. -/
theorem mcp_insert {op : McpOp} {id : OperationId} {manager : ManagerState}
    {P : Except LocalMcpRuntimeError (McpAns op) → McpTokens → Prop}
    (h : ∀ m (s : Shared McpWorld), McpInv (m + tok (.fresh id)) { s with own := { s.own with locked := false } } →
      s.own.manager = manager → (∀ c ∈ m.1, c.operationId ≠ id) → McpInv m { s with own := (execMcp op s.own).1 })
    (hP : ∀ answer, P (.ok answer) own) :
    McpHolds C D (McpProg.own op) P (own + tok (.fresh id) + tok (.lock manager)) := by
  refine mcp_own fun s rest hi _ _ => ⟨own, by simp, ?_, hP _⟩
  rw [← add_assoc, ← add_assoc] at hi
  obtain ⟨hlocked, hmanager, -⟩ := hi.2.manager_eq
  have hcharge : ∀ c ∈ (rest + own).1, c.operationId ≠ id := by
    rw [add_right_comm] at hi
    simpa using not_charged_of_fresh hi
  exact h (rest + own) s hi.2.unlock hmanager hcharge

/-- The proposal of a launch, which holds the lock from its check to the entry. -/
theorem holds_proposeLaunch (checks : ProposalChecks) (env : Nat → RecordEnv) (operationId : OperationId)
    (taskId : TaskId) (serverId : String) :
    McpHolds C D (proposeLaunch checks env operationId taskId serverId) (fun _ _ => True) own := by
  refine Prog.Holds.bind (Q := fun r own' => ∀ locked, r = .ok locked → ∀ prepared, locked = .ok prepared →
    ∃ manager : ManagerState, own' = own + tok (.lock manager) ∧ manager.clients.get? ⟨taskId, serverId⟩ = none ∧
      ∀ p, manager.pendingLaunches.get? p.operationId = some p → p.key ≠ ⟨taskId, serverId⟩) ?_ ?_ fun _ _ _ => trivial
  · refine mcp_lockLaunch (fun e locked hlocked prepared hprepared => ?_)
      fun prepared manager hclient hkey _ _ _ _ => ⟨manager, rfl, hclient, hkey⟩
    cases (Except.ok.inj hlocked).trans hprepared
  · intro locked own' hlocked
    refine mcp_lift_bind (fun _ _ => trivial) fun prepared hprepared => ?_
    obtain ⟨manager, rfl, hclient, hkey⟩ := hlocked locked rfl prepared hprepared
    refine mcp_propose rfl (fun e more => ?_) fun operation => ?_
    · exact Prog.Holds.bind (Q := fun _ _ => True) (mcp_unlock trivial) (fun _ _ _ => trivial) fun _ _ _ => trivial
    · refine Prog.Holds.bind (Q := fun _ _ => True) (mcp_insert ?_ fun _ => trivial) (fun _ _ _ => trivial)
        fun _ _ _ => trivial
      rintro m s h rfl hcharge
      exact h.putLaunch (p := ⟨operation.operationId, taskId, serverId, prepared⟩) rfl hcharge hclient hkey

theorem holds_proposeToolCall (checks : ProposalChecks) (env : Nat → RecordEnv) (operationId : OperationId)
    (taskId : TaskId) (serverId : String) (prepare : LocalMcpClient → Except String LocalMcpToolCall) :
    McpHolds C D (proposeToolCall checks env operationId taskId serverId prepare) (fun _ _ => True) own := by
  refine Prog.Holds.bind (Q := fun r own' => ∀ locked, r = .ok locked → ∀ client, locked = .ok client →
    ∃ manager, own' = own + tok (.lock manager)) ?_ ?_ fun _ _ _ => trivial
  · refine mcp_lockCall (fun e locked hlocked client hclient => ?_) fun client manager _ _ _ _ => ⟨manager, rfl⟩
    cases (Except.ok.inj hlocked).trans hclient
  · intro locked own' hlocked
    refine mcp_lift_bind (fun _ _ => trivial) fun client hclient => ?_
    obtain ⟨manager, rfl⟩ := hlocked locked rfl client hclient
    cases prepare client with
    | error message =>
        exact Prog.Holds.bind (Q := fun _ _ => True) (mcp_unlock trivial) (fun _ _ _ => trivial) fun _ _ _ => trivial
    | ok prepared =>
        refine mcp_propose rfl (fun e more => ?_) fun operation => ?_
        · exact Prog.Holds.bind (Q := fun _ _ => True) (mcp_unlock trivial) (fun _ _ _ => trivial) fun _ _ _ => trivial
        · refine Prog.Holds.bind (Q := fun _ _ => True) (mcp_insert ?_ fun _ => trivial) (fun _ _ _ => trivial)
            fun _ _ _ => trivial
          rintro m s h rfl hcharge
          exact h.putCall (q := ⟨operation.operationId, taskId, ⟨taskId, serverId⟩, prepared⟩) rfl hcharge

/-! ## A launch -/

/-- The entry of a launch is removed by the request that has won it, once its client is not halfway. -/
theorem mcp_removeLaunch {r : LaunchRequest} {stage : ClientStage} (hstage : stage ≠ .started)
    {P : Except LocalMcpRuntimeError Unit → McpTokens → Prop} (hP : P (.ok ()) (own + tok (.launching r))) :
    McpHolds C D (McpProg.own (.removeLaunch r.pending.operationId)) P (own + tok (.won r stage)) := by
  refine mcp_own fun s rest hi hready _ => ⟨own + tok (.launching r), by simp, ?_, hP⟩
  have hlocked := unlocked_of_ready hready rfl
  rw [← add_assoc] at hi ⊢
  have hmem : r ∈ s.own.launching := by
    have hpicked := mem_picked_of (f := McpToken.request?) (b := r) (mem_tok (m := rest + own) (t := .won r stage)) rfl
    rwa [hi.2.counted.launching] at hpicked
  have hnone := hi.2.world.requestCall r hmem
  have herased : McpInv (rest + own + tok (.won r stage)) { s with
      own := s.own.setLaunches (s.own.manager.pendingLaunches.erase r.pending.operationId) } := by
    refine hi.2.eraseLaunch hlocked fun r' hid hr' => ?_
    rcases mem_add_tok.mp hr' with hr' | heq
    · exact hi.2.won_ne hr' hid
    · exact hstage (McpToken.won.inj heq).2.symm
  refine herased.concede ⟨rfl, rfl⟩ ⟨rfl, rfl, rfl, rfl, rfl, rfl⟩ trivial fun hpending => ?_
  rcases hpending with ⟨p, hp⟩ | ⟨q, hq⟩
  · cases (Keyed.get?_erase_self _ _).symm.trans hp
  · cases hnone.symm.trans hq

/-- The decision on a launch is won by one request, which is charged with the operation then. -/
theorem mcp_decideLaunch {r : LaunchRequest} {env : Nat → RecordEnv} {taskId : TaskId} {expectedRevision : Nat}
    {decision : PermissionDecision} {e : DaemonError}
    {P : Except LocalMcpRuntimeError (Except DaemonError OperationRecord) → McpTokens → Prop}
    (herr : ∀ e, P (.ok (.error e)) (own + tok (.launching r)))
    (hdecided : ∀ e, P (.ok (.error e))
      (own + tok (.won r .ahead) + charge r.pending.operationId expectedRevision .waitingHuman))
    (hok : ∀ record, record.revision = expectedRevision + 1 → P (.ok (.ok record))
      (own + tok (.won r .ahead) + charge r.pending.operationId (expectedRevision + 1) (decidedState decision))) :
    McpHolds C D (daemonCall (decidePermission env taskId r.pending.operationId expectedRevision decision
      (fun _ => .error e) (.ok ()))) P (own + tok (.launching r)) := by
  refine holds_daemonCall (charged_decidePermission charging_mcpInv (m := own + tok (.won r .ahead)) (by simp) ?_ herr
    hdecided (fun _ _ _ h => by cases h) fun record _ hrevision _ => hok record hrevision)
  intro rest s a record hi hid hget _ hstate hnone _ hput
  rw [← add_assoc] at hi ⊢
  obtain ⟨hours, hinv⟩ := hi.2.winLaunch hid hget hstate hnone hput
  exact ⟨hours, hinv.add_charge fun _ => mem_picked_of mem_tok rfl⟩

/-- What a request holds at the end that has resolved a launch: nothing of it, or the decision failed halfway. -/
def LaunchEnds (r : LaunchRequest) (own own' : McpTokens) : Prop :=
  (∃ more, own' = own + more + tok (.launching r)) ∨
    ∃ revision, own' = own + tok (.won r .ahead) + charge r.pending.operationId revision .waitingHuman

theorem mcp_endLaunch {r : LaunchRequest} {own' : McpTokens} (hends : LaunchEnds r own own')
    {P : Except LocalMcpRuntimeError Unit → McpTokens → Prop} (hP : ∀ m, P (.ok ()) m) :
    McpHolds C D (McpProg.own (.endLaunch r)) P own' := by
  refine mcp_own fun s rest hi _ _ => ?_
  rcases hends with ⟨more, rfl⟩ | ⟨revision, rfl⟩
  · rw [← add_assoc] at hi
    exact ⟨own + more, by simp, hi.2.endLaunch, hP _⟩
  · rw [← add_assoc, ← add_assoc] at hi
    refine ⟨own, (Multiset.le_add_right own.1 0).trans (Multiset.le_add_right _ _), McpInv.endLaunch ?_, hP _⟩
    obtain ⟨-, hother, record, hget, hof, -⟩ := hi.1.of_add (c := ⟨r.pending.operationId, revision, .waitingHuman⟩)
    refine hi.2.drop_charge.concede ⟨rfl, rfl⟩ ⟨rfl, rfl, rfl, rfl, rfl, rfl⟩ trivial fun _ => ⟨fun c hc => ?_, ?_⟩
    · exact hother c (by simpa using hc)
    · exact ⟨record, hget, hof.state⟩

/-- What a request holds once it has tried to start a client: the charge, unless the operation is completed. -/
def StartEnds (r : LaunchRequest) (revision : Nat) (own : McpTokens)
    (result : Except LocalMcpRuntimeError LocalMcpServerRuntimeReceipt) (own' : McpTokens) : Prop :=
  ∃ stage, stage ≠ ClientStage.started ∧
    match result with
    | .ok _ => ∃ more, own' = own + more + tok (.won r stage)
    | .error _ => own' = own + tok (.won r stage) + charge r.pending.operationId revision .dispatching

theorem mcp_record {m : Method Unit} {P : Except LocalMcpRuntimeError (Except DaemonError Unit) → McpTokens → Prop}
    (h : Charged C D (mcpAllowed Undisturbed) localMcp McpInv m (fun _ own' => own' = own) own)
    (hP : ∀ r, P (.ok r) own) : McpHolds C D (daemonCall m) P own :=
  holds_daemonCall (h.weaken fun r _ hown => hown ▸ hP r)

theorem charged_recordLocalMcpServerRuntime {env : RecordEnv} {taskId : TaskId} {operationId : OperationId}
    {expectedRevision : Nat} {checked : OperationRecord → Except DaemonError EventId}
    {receipt : LocalMcpServerRuntimeReceipt} :
    Charged C D (mcpAllowed Undisturbed) localMcp McpInv
      (recordLocalMcpServerRuntime env taskId operationId expectedRevision checked receipt)
      (fun _ own' => own' = own) own := by
  refine Prog.Holds.bind (Q := fun _ own' => own' = own) (charged_operation fun _ _ => rfl) ?_ fun _ _ h => h
  rintro operation _ rfl
  refine charged_lift_bind (fun _ => rfl) fun _ _ => charged_ensure_bind (fun _ => rfl) fun _ => ?_
  refine charged_lift_bind (fun _ => rfl) fun proposal _ => ?_
  exact charged_event charging_mcpInv (by simp) (by simp) (by simp) fun _ => rfl

theorem mcp_spawn {r : LaunchRequest} (hallow : r.decision = .allowOnce)
    {P : Except LocalMcpRuntimeError Unit → McpTokens → Prop}
    (hP : P (.ok ()) (own + tok (.won r .started))) :
    McpHolds C D (McpProg.own (.spawnClient ⟨r.pending.operationId, r.pending.key⟩)) P
      (own + tok (.won r .ahead)) := by
  refine mcp_own fun s rest hi _ hundisturbed => ⟨own + tok (.won r .started), by simp, ?_, hP⟩
  rw [← add_assoc] at hi ⊢
  exact hi.2.spawn hallow hundisturbed.1 hundisturbed.2

theorem mcp_dropClient {r : LaunchRequest} {P : Except LocalMcpRuntimeError Unit → McpTokens → Prop}
    (hP : P (.ok ()) (own + tok (.won r .past))) :
    McpHolds C D (McpProg.own (.dropClient r.pending.operationId)) P (own + tok (.won r .started)) := by
  refine mcp_own fun s rest hi _ _ => ⟨own + tok (.won r .past), by simp, ?_, hP⟩
  rw [← add_assoc] at hi ⊢
  exact hi.2.dropClient _

theorem mcp_insertClient {r : LaunchRequest}
    {P : Except LocalMcpRuntimeError (Except LocalMcpRuntimeError Unit) → McpTokens → Prop}
    (hok : P (.ok (.ok ())) (own + tok (.won r .past)))
    (herr : ∀ e, P (.ok (.error e)) (own + tok (.won r .started))) :
    McpHolds C D (McpProg.own (.insertClient ⟨r.pending.operationId, r.pending.key⟩)) P
      (own + tok (.won r .started)) := by
  refine mcp_own fun s rest hi hready _ => ?_
  have hlocked := unlocked_of_ready hready rfl
  by_cases hoccupied : (s.own.manager.clients.get? r.pending.key).isSome = true
  · refine ⟨own + tok (.won r .started), le_refl _, ?_, ?_⟩
    · simp only [execMcp, if_pos hoccupied]
      exact hi.2
    · simp only [execMcp, if_pos hoccupied]
      exact herr _
  · refine ⟨own + tok (.won r .past), by simp, ?_, ?_⟩
    · simp only [execMcp, if_neg hoccupied]
      rw [← add_assoc] at hi ⊢
      exact hi.2.insertClient hlocked
    · simp only [execMcp, if_neg hoccupied]
      exact hok

theorem holds_startClient (env : LaunchEnv) {r : LaunchRequest} (hallow : r.decision = .allowOnce)
    (dispatching : OperationRecord) {revision : Nat} :
    McpHolds C D (startClient env r.pending dispatching) (StartEnds r revision own)
      (own + tok (.won r .ahead) + charge r.pending.operationId revision .dispatching) := by
  have hahead (e : LocalMcpRuntimeError) : StartEnds r revision own (.error e)
      (own + tok (.won r .ahead) + charge r.pending.operationId revision .dispatching) := ⟨.ahead, by simp, rfl⟩
  have hpast (e : LocalMcpRuntimeError) : StartEnds r revision own (.error e)
      (own + tok (.won r .past) + charge r.pending.operationId revision .dispatching) := ⟨.past, by simp, rfl⟩
  have hspawn {α : Type} {f : Unit → McpProg α} {P : Except LocalMcpRuntimeError α → McpTokens → Prop}
      (hf : McpHolds C D (f ()) P
        (own + tok (.won r .started) + charge r.pending.operationId revision .dispatching)) :
      McpHolds C D (McpProg.own (.spawnClient ⟨r.pending.operationId, r.pending.key⟩) >>= f) P
        (own + tok (.won r .ahead) + charge r.pending.operationId revision .dispatching) := by
    rw [add_right_comm] at hf ⊢
    exact Prog.Holds.andThen (mcp_spawn hallow hf)
  have hdrop (e : LocalMcpRuntimeError) : McpHolds C D (do
      McpProg.own (.dropClient r.pending.operationId)
      (Prog.fail e : McpProg LocalMcpServerRuntimeReceipt)) (StartEnds r revision own)
      (own + tok (.won r .started) + charge r.pending.operationId revision .dispatching) := by
    rw [add_right_comm]
    refine Prog.Holds.andThen (mcp_dropClient ?_)
    rw [add_right_comm]
    exact hpast e
  unfold startClient
  refine mcp_lift_bind (fun e _ => hahead e) fun _ _ => ?_
  cases env.launch with
  | notSpawned message => exact hahead _
  | notInitialized message => exact hspawn (hdrop _)
  | launched receipt =>
      refine hspawn (Prog.Holds.andThen (mcp_record charged_recordLocalMcpServerRuntime fun recorded => ?_))
      cases recorded with
      | error e => exact hdrop _
      | ok _ =>
          rw [add_right_comm]
          refine Prog.Holds.andThen (mcp_insertClient ?_ fun e => ?_)
          · rw [add_right_comm]
            refine Prog.Holds.andThen (holds_daemonCall (charged_completeOperation charging_mcpInv (fun e => ?_)
              fun record outcome _ _ _ => ⟨.past, by simp, _, add_right_comm _ _ _⟩))
            refine Prog.Holds.andThen (mcp_quiet (fun m s h hready => h.eraseClient (unlocked_of_ready hready rfl) _)
              fun removed => ?_)
            cases removed with
            | none => exact hpast _
            | some client =>
                exact Prog.Holds.andThen (mcp_quiet (fun m s h _ => h.closeClient _ _) fun _ => hpast _)
          · rw [add_right_comm]
            exact hdrop e

/-- A method of the daemon, and what follows it. -/
theorem mcp_daemon {n : Method α} {f : α → McpProg β} {P : Except LocalMcpRuntimeError β → McpTokens → Prop}
    (h : McpHolds C D (daemonCall n) (fun r own' => match r with
      | .ok (.ok x) => McpHolds C D (f x) P own'
      | .ok (.error e) => P (.error (.daemon e)) own'
      | .error e => P (.error e) own') own) : McpHolds C D (McpProg.daemon n >>= f) P own := by
  refine Prog.Holds.andThen (Prog.Holds.andThen (h.weaken fun r own' hr => ?_))
  rcases r with e | (e | x) <;> exact hr

theorem LaunchEnds.refl {r : LaunchRequest} : LaunchEnds r own (own + tok (.launching r)) := Or.inl ⟨0, by simp⟩

theorem holds_resolvePendingLaunch (env : LaunchEnv) (r : LaunchRequest) (expectedRevision : Nat) :
    McpHolds C D (resolvePendingLaunch env r.pending expectedRevision r.decision)
      (fun _ own' => LaunchEnds r own own') (own + tok (.launching r)) := by
  refine mcp_daemon (mcp_decideLaunch (fun _ => .refl) (fun _ => Or.inr ⟨_, rfl⟩) fun record hrevision => ?_)
  -- Whoever holds a charge of the operation removes its entry and ends without it.
  have hremove {revision : Nat} {state : OperationState} {stage : ClientStage} (hstage : stage ≠ .started)
      {α : Type} {f : Unit → McpProg α} {P : Except LocalMcpRuntimeError α → McpTokens → Prop}
      (hf : McpHolds C D (f ()) P (own + charge r.pending.operationId revision state + tok (.launching r))) :
      McpHolds C D (McpProg.own (.removeLaunch r.pending.operationId) >>= f) P
        (own + tok (.won r stage) + charge r.pending.operationId revision state) := by
    rw [add_right_comm]
    exact Prog.Holds.andThen (mcp_removeLaunch hstage hf)
  have hends {more : McpTokens} : LaunchEnds r own (own + more + tok (.launching r)) := Or.inl ⟨more, rfl⟩
  dsimp only
  by_cases hallow : r.decision = .allowOnce
  · rw [if_neg (not_not_intro hallow)]
    have hauthorized : decidedState r.decision = .authorized := by rw [hallow]; rfl
    rw [hauthorized]
    refine Prog.Holds.andThen (holds_daemonCall (charged_beginOperation charging_mcpInv
      (fun e => hremove (by simp) hends) fun dispatching _ _ _ _ => ?_))
    refine Prog.Holds.andThen (Prog.Holds.attempt ((holds_startClient env hallow dispatching).weaken ?_))
    rintro result _ ⟨stage, hstage, hown⟩
    cases result with
    | ok receipt =>
        obtain ⟨more, rfl⟩ := hown
        exact Prog.Holds.andThen (mcp_removeLaunch hstage hends)
    | error e =>
        obtain rfl := hown
        refine hremove hstage ?_
        rw [add_right_comm]
        refine Prog.Holds.andThen (holds_daemonCall (charged_completeOperation charging_mcpInv (fun _ => ?_)
          fun _ _ _ _ _ => ?_))
        · rw [add_right_comm]
          exact hends
        · rw [add_right_comm]
          exact hends
  · rw [if_pos hallow]
    exact hremove (by simp) hends

theorem mcp_takeLaunch {taskId : TaskId} {operationId : OperationId} {decision : PermissionDecision}
    {P : Except LocalMcpRuntimeError (Except LocalMcpRuntimeError PendingLaunch) → McpTokens → Prop}
    (herr : ∀ e, P (.ok (.error e)) own) (hok : ∀ p, P (.ok (.ok p)) (own + tok (.launching ⟨p, decision⟩))) :
    McpHolds C D (McpProg.own (.takeLaunch taskId operationId decision)) P own := by
  refine mcp_own fun s rest hi _ hundisturbed => ?_
  simp only [execMcp]
  cases htaken : (s.own.manager.pendingLaunches.get? operationId).filter fun p => p.taskId = taskId with
  | none => exact ⟨own, le_refl _, hi.2, herr _⟩
  | some p =>
      obtain ⟨hp, htask⟩ := Option.filter_eq_some_iff.mp htaken
      obtain rfl := of_decide_eq_true htask
      refine ⟨own + tok (.launching ⟨p, decision⟩), by simp, ?_, hok p⟩
      rw [← add_assoc]
      exact hi.2.takeLaunch (Keyed.key_eq_of_get? hp ▸ hp) hundisturbed

theorem holds_resolveLaunch (env : LaunchEnv) (taskId : TaskId) (operationId : OperationId) (expectedRevision : Nat)
    (decision : PermissionDecision) :
    McpHolds C D (resolveLaunch env taskId operationId expectedRevision decision) (fun _ _ => True) own := by
  refine mcp_lift_bind (fun _ _ => trivial) fun _ _ => Prog.Holds.andThen (mcp_takeLaunch (fun _ => trivial) fun p => ?_)
  refine mcp_lift_bind (fun _ _ => trivial) fun pending hpending => ?_
  obtain rfl := Except.ok.inj hpending
  refine Prog.Holds.andThen (Prog.Holds.attempt ((holds_resolvePendingLaunch env ⟨p, decision⟩ expectedRevision).weaken ?_))
  exact fun result own' hends => Prog.Holds.andThen (mcp_endLaunch hends fun _ => trivial)

/-! ## A tool call -/

theorem mcp_decideCall {operationId : OperationId} {env : Nat → RecordEnv} {taskId : TaskId} {expectedRevision : Nat}
    {decision : PermissionDecision} {e : DaemonError}
    {P : Except LocalMcpRuntimeError (Except DaemonError OperationRecord) → McpTokens → Prop}
    (herr : ∀ e, P (.ok (.error e)) (own + tok (.calling operationId)))
    (hdecided : ∀ e, P (.ok (.error e))
      (own + tok (.wonCall operationId) + charge operationId expectedRevision .waitingHuman))
    (hok : ∀ record, record.revision = expectedRevision + 1 → P (.ok (.ok record))
      (own + tok (.wonCall operationId) + charge operationId (expectedRevision + 1) (decidedState decision))) :
    McpHolds C D (daemonCall (decidePermission env taskId operationId expectedRevision decision
      (fun _ => .error e) (.ok ()))) P (own + tok (.calling operationId)) := by
  refine holds_daemonCall (charged_decidePermission charging_mcpInv (m := own + tok (.wonCall operationId)) (by simp)
    ?_ herr hdecided (fun _ _ _ h => by cases h) fun record _ hrevision _ => hok record hrevision)
  intro rest s a record hi hid hget _ hstate hnone _ hput
  rw [← add_assoc] at hi ⊢
  obtain ⟨hours, hinv⟩ := hi.2.winCall hid hget hstate hnone hput
  exact ⟨hours, hinv.add_charge fun _ => mem_picked_of mem_tok rfl⟩

theorem mcp_removeCall {operationId : OperationId} {P : Except LocalMcpRuntimeError Unit → McpTokens → Prop}
    (hP : P (.ok ()) (own + tok (.calling operationId))) :
    McpHolds C D (McpProg.own (.removeCall operationId)) P (own + tok (.wonCall operationId)) := by
  refine mcp_own fun s rest hi hready _ => ⟨own + tok (.calling operationId), by simp, ?_, hP⟩
  have hlocked := unlocked_of_ready hready rfl
  rw [← add_assoc] at hi ⊢
  have hmem : operationId ∈ s.own.calling := by
    have hpicked := mem_picked_of (f := McpToken.call?) (b := operationId)
      (mem_tok (m := rest + own) (t := .wonCall operationId)) rfl
    rwa [hi.2.counted.calling] at hpicked
  have hnone := hi.2.world.callLaunch operationId hmem
  refine (hi.2.eraseCall hlocked).concede ⟨rfl, rfl⟩ ⟨rfl, rfl, rfl, rfl, rfl, rfl⟩ trivial fun hpending => ?_
  rcases hpending with ⟨p, hp⟩ | ⟨q, hq⟩
  · cases hnone.symm.trans hp
  · cases (Keyed.get?_erase_self _ _).symm.trans hq

/-- What a request holds at the end that has resolved a call. -/
def CallEnds (operationId : OperationId) (own own' : McpTokens) : Prop :=
  (∃ more, own' = own + more + tok (.calling operationId)) ∨
    ∃ revision, own' = own + tok (.wonCall operationId) + charge operationId revision .waitingHuman

theorem CallEnds.refl {operationId : OperationId} : CallEnds operationId own (own + tok (.calling operationId)) :=
  Or.inl ⟨0, by simp⟩

theorem mcp_endCall {operationId : OperationId} {own' : McpTokens} (hends : CallEnds operationId own own')
    {P : Except LocalMcpRuntimeError Unit → McpTokens → Prop} (hP : ∀ m, P (.ok ()) m) :
    McpHolds C D (McpProg.own (.endCall operationId)) P own' := by
  refine mcp_own fun s rest hi _ _ => ?_
  rcases hends with ⟨more, rfl⟩ | ⟨revision, rfl⟩
  · rw [← add_assoc] at hi
    exact ⟨own + more, by simp, hi.2.endCall, hP _⟩
  · rw [← add_assoc, ← add_assoc] at hi
    refine ⟨own, (Multiset.le_add_right own.1 0).trans (Multiset.le_add_right _ _), McpInv.endCall ?_, hP _⟩
    obtain ⟨-, hother, record, hget, hof, -⟩ := hi.1.of_add (c := ⟨operationId, revision, .waitingHuman⟩)
    refine hi.2.drop_charge.concede ⟨rfl, rfl⟩ ⟨rfl, rfl, rfl, rfl, rfl, rfl⟩ trivial fun _ => ⟨fun c hc => ?_, ?_⟩
    · exact hother c (by simpa using hc)
    · exact ⟨record, hget, hof.state⟩

theorem charged_recordLocalMcpToolCall {env : RecordEnv} {taskId : TaskId} {operationId : OperationId}
    {expectedRevision : Nat} {checked : OperationRecord → Except DaemonError (EventId × EventId)}
    {receipt : LocalMcpToolCallReceipt} {P : Except DaemonError Unit → McpTokens → Prop} (hP : ∀ r, P r own) :
    Charged C D (mcpAllowed Undisturbed) localMcp McpInv
      (recordLocalMcpToolCall env taskId operationId expectedRevision checked receipt) P own := by
  refine Prog.Holds.andThen (charged_operation fun result _ => ?_)
  cases result with
  | error e => exact hP _
  | ok operation =>
      refine charged_lift_bind (fun _ => hP _) fun _ _ => charged_ensure_bind (fun _ => hP _) fun _ => ?_
      refine charged_lift_bind (fun _ => hP _) fun proposal _ => ?_
      exact charged_event charging_mcpInv (by simp) (by simp) (by simp) hP

/-- What a request holds once it has tried to call a client: the charge, unless the operation is completed. -/
def CallDone (operationId : OperationId) (revision : Nat) (own : McpTokens)
    (result : Except LocalMcpRuntimeError LocalMcpToolCallReceipt) (own' : McpTokens) : Prop :=
  match result with
  | .ok _ => ∃ more, own' = own + more + tok (.wonCall operationId)
  | .error _ => own' = own + tok (.wonCall operationId) + charge operationId revision .dispatching

theorem holds_callTool (env : CallEnv) (pending : PendingCall) (dispatching : OperationRecord) {revision : Nat} :
    McpHolds C D (callTool env pending dispatching) (CallDone pending.operationId revision own)
      (own + tok (.wonCall pending.operationId) + charge pending.operationId revision .dispatching) := by
  have hquiet {op : McpOp} {α : Type} {f : McpAns op → McpProg α} {P : Except LocalMcpRuntimeError α → McpTokens → Prop}
      {own' : McpTokens}
      (h : ∀ m s, McpInv m s → McpInv m { s with own := (execMcp op s.own).1 })
      (hf : ∀ answer, McpHolds C D (f answer) P own') : McpHolds C D (McpProg.own op >>= f) P own' :=
    Prog.Holds.andThen (mcp_quiet (fun m s hi _ => h m s hi) hf)
  refine hquiet (fun m s hi => ?_) fun got => mcp_lift_bind (fun _ _ => rfl) fun client _ => ?_
  · simp only [execMcp]
    cases s.own.manager.clients.get? pending.key with
    | none => exact hi
    | some client => exact hi.hold _ _
  have hrelease {result : Except LocalMcpRuntimeError LocalMcpToolCallReceipt} {own' : McpTokens}
      (h : CallDone pending.operationId revision own result own') :
      McpHolds C D (do
        McpProg.own (.releaseClient client.operationId)
        McpProg.lift result) (CallDone pending.operationId revision own) own' :=
    hquiet (fun m s hi => hi.release _) fun _ => h
  refine Prog.Holds.andThen (Prog.Holds.attempt (Prog.Holds.weaken ?_ fun result own' h => hrelease h))
  refine mcp_lift_bind (fun _ _ => rfl) fun _ _ => ?_
  refine hquiet (fun m s hi => { hi with counted := { hi.counted with }, token := hi.token, world := { hi.world with } })
    fun _ => hquiet (fun m s hi => { hi with
      counted := { hi.counted with }, token := hi.token, world := { hi.world with } }) fun _ => ?_
  refine mcp_lift_bind (fun _ _ => rfl) fun receipt _ => ?_
  refine mcp_daemon (holds_daemonCall (charged_recordLocalMcpToolCall fun recorded => ?_))
  cases recorded with
  | error e => rfl
  | ok _ =>
      refine mcp_daemon (holds_daemonCall (charged_completeOperation charging_mcpInv (fun e => rfl)
        fun record outcome _ _ _ => ⟨_, add_right_comm _ _ _⟩))

theorem holds_resolvePendingCall (env : CallEnv) (pending : PendingCall) (expectedRevision : Nat)
    (decision : PermissionDecision) :
    McpHolds C D (resolvePendingCall env pending expectedRevision decision)
      (fun _ own' => CallEnds pending.operationId own own') (own + tok (.calling pending.operationId)) := by
  refine mcp_daemon (mcp_decideCall (fun _ => .refl) (fun _ => Or.inr ⟨_, rfl⟩) fun record hrevision => ?_)
  have hremove {revision : Nat} {state : OperationState} {α : Type} {f : Unit → McpProg α}
      {P : Except LocalMcpRuntimeError α → McpTokens → Prop}
      (hf : McpHolds C D (f ()) P (own + charge pending.operationId revision state + tok (.calling pending.operationId))) :
      McpHolds C D (McpProg.own (.removeCall pending.operationId) >>= f) P
        (own + tok (.wonCall pending.operationId) + charge pending.operationId revision state) := by
    rw [add_right_comm]
    exact Prog.Holds.andThen (mcp_removeCall hf)
  have hends {more : McpTokens} :
      CallEnds pending.operationId own (own + more + tok (.calling pending.operationId)) := Or.inl ⟨more, rfl⟩
  dsimp only
  by_cases hallow : decision = .allowOnce
  · rw [if_neg (not_not_intro hallow), hallow]
    refine Prog.Holds.andThen (holds_daemonCall (charged_beginOperation charging_mcpInv
      (fun e => hremove hends) fun dispatching _ _ _ _ => ?_))
    refine Prog.Holds.andThen (Prog.Holds.attempt ((holds_callTool env pending dispatching).weaken fun result own' hown => ?_))
    cases result with
    | ok receipt =>
        obtain ⟨more, rfl⟩ := hown
        exact Prog.Holds.andThen (mcp_removeCall hends)
    | error e =>
        obtain rfl := hown
        refine hremove ?_
        rw [add_right_comm]
        refine Prog.Holds.andThen (holds_daemonCall (charged_completeOperation charging_mcpInv (fun _ => ?_)
          fun _ _ _ _ _ => ?_))
        · rw [add_right_comm]
          exact hends
        · rw [add_right_comm]
          exact hends
  · rw [if_pos hallow]
    exact hremove hends

theorem mcp_takeCall {taskId : TaskId} {operationId : OperationId}
    {P : Except LocalMcpRuntimeError (Except LocalMcpRuntimeError PendingCall) → McpTokens → Prop}
    (herr : ∀ e, P (.ok (.error e)) own) (hok : ∀ q, P (.ok (.ok q)) (own + tok (.calling q.operationId))) :
    McpHolds C D (McpProg.own (.takeCall taskId operationId)) P own := by
  refine mcp_own fun s rest hi _ _ => ?_
  simp only [execMcp]
  cases htaken : (s.own.manager.pendingCalls.get? operationId).filter fun q => q.taskId = taskId with
  | none => exact ⟨own, le_refl _, hi.2, herr _⟩
  | some q =>
      obtain ⟨hq, -⟩ := Option.filter_eq_some_iff.mp htaken
      refine ⟨own + tok (.calling q.operationId), by simp, ?_, hok q⟩
      rw [← add_assoc]
      exact hi.2.takeCall (Keyed.key_eq_of_get? hq ▸ hq)

theorem holds_resolveToolCall (env : CallEnv) (taskId : TaskId) (operationId : OperationId) (expectedRevision : Nat)
    (decision : PermissionDecision) :
    McpHolds C D (resolveToolCall env taskId operationId expectedRevision decision) (fun _ _ => True) own := by
  refine mcp_lift_bind (fun _ _ => trivial) fun _ _ => Prog.Holds.andThen (mcp_takeCall (fun _ => trivial) fun q => ?_)
  refine mcp_lift_bind (fun _ _ => trivial) fun pending hpending => ?_
  obtain rfl := Except.ok.inj hpending
  refine Prog.Holds.andThen (Prog.Holds.attempt ((holds_resolvePendingCall env q expectedRevision decision).weaken ?_))
  exact fun result own' hends => Prog.Holds.andThen (mcp_endCall hends fun _ => trivial)

/-! ## A close -/

/-- The decision on an entry that a close has taken: nobody waits for it any longer. -/
theorem mcp_decideOrphan {operationId : OperationId} {env : Nat → RecordEnv} {taskId : TaskId} {expectedRevision : Nat}
    {decision : PermissionDecision} {e : DaemonError}
    {P : Except LocalMcpRuntimeError (Except DaemonError OperationRecord) → McpTokens → Prop}
    (h : ∀ r more, P (.ok r) (own + more)) :
    McpHolds C D (daemonCall (decidePermission env taskId operationId expectedRevision decision
      (fun _ => .error e) (.ok ()))) P (own + tok (.orphan operationId)) := by
  refine holds_daemonCall (charged_decidePermission charging_mcpInv (m := own + tok (.orphan operationId)) rfl
    ?_ (fun _ => h _ _) (fun _ => ?_) (fun _ _ _ h => by cases h) fun record _ _ _ => ?_)
  · intro rest s a record hi hid hget _ hstate hnone _ hput
    rw [← add_assoc] at hi ⊢
    obtain ⟨⟨record', hget', hours, -, -⟩, hpending⟩ := hi.2.token _ mem_tok
    obtain rfl := Option.some.inj (hget'.symm.trans hget)
    have hfresh : McpToken.fresh record'.operationId ∉ (rest + own + tok (.orphan operationId)).2 := fun hmem =>
      Multiset.disjoint_left.mp hi.2.counted.apart (mem_picked_fresh.mpr hmem)
        (mem_picked_orphan.mpr (hid ▸ mem_tok))
    refine ⟨hours, (hi.2.put_decided hput hours (by simp [hstate]) (by simp) hfresh fun _ => Or.inl hstate).add_charge ?_⟩
    exact fun hpending' => absurd hpending' hpending
  · rw [add_assoc]
    exact h _ _
  · rw [add_assoc]
    exact h _ _

theorem orphans_cons (id : OperationId) (ids : List OperationId) : orphans (id :: ids) = tok (.orphan id) + orphans ids := by
  rw [orphans, List.map_cons, List.sum_cons, orphans]

theorem fst_orphans (ids : List OperationId) : (orphans ids).1 = 0 := by
  induction ids with
  | nil => rfl
  | cons id ids ih =>
      rw [orphans_cons]
      exact (congrArg (0 + ·) ih).trans (zero_add 0)

theorem holds_cancelPending (env : Nat → RecordEnv) (ids : List OperationId)
    {P : Except LocalMcpRuntimeError Unit → McpTokens → Prop} (h : ∀ more, P (.ok ()) (own + more)) :
    McpHolds C D (cancelPending env ids) P (own + orphans ids) := by
  induction ids generalizing own env with
  | nil => exact h (orphans [])
  | cons id ids ih =>
      have hrest (more : McpTokens) (env : Nat → RecordEnv) :
          McpHolds C D (cancelPending env ids) P (own + orphans ids + more) := by
        rw [add_right_comm]
        exact ih env fun more' => add_assoc own more more' ▸ h _
      have hskip (env : Nat → RecordEnv) : McpHolds C D (cancelPending env ids) P (own + orphans (id :: ids)) := by
        rw [orphans_cons, add_comm (tok _), ← add_assoc]
        exact hrest _ env
      refine Prog.Holds.andThen (holds_daemonCall (charged_operation fun read _ => ?_))
      cases read with
      | error e => exact hskip _
      | ok operation =>
          dsimp only
          by_cases hwaiting : operation.state = .waitingHuman
          · rw [if_pos hwaiting, orphans_cons, add_comm (tok _), ← add_assoc]
            exact Prog.Holds.andThen (mcp_decideOrphan fun _ more => hrest more _)
          · rw [if_neg hwaiting]
            exact hskip _

theorem holds_closeClients (ended : LocalMcpClient → Bool) (target : CloseTarget) (clients : List LocalMcpClient)
    {P : Except LocalMcpRuntimeError Unit → McpTokens → Prop} (h : P (.ok ()) (own + tok (.closing target []))) :
    McpHolds C D (closeClients ended clients) P (own + tok (.closing target clients)) := by
  induction clients with
  | nil => exact h
  | cons client clients ih =>
      refine Prog.Holds.andThen (mcp_own fun s rest hi _ hundisturbed =>
        ⟨own + tok (.closing target clients), by simp, ?_, ih⟩)
      rw [← add_assoc] at hi ⊢
      exact hi.2.closeNext hundisturbed

theorem holds_close (env : Nat → RecordEnv) (ended : LocalMcpClient → Bool) (target : CloseTarget) :
    McpHolds C D (close env ended target) (fun _ _ => True) own := by
  refine Prog.Holds.andThen (mcp_own fun s rest hi hready hundisturbed => ?_)
  refine ⟨own + (orphans (s.own.manager.pendingOf target) + tok (.closing target (s.own.manager.clientsOf target))),
    ?_, ?_, ?_⟩
  · rw [Prod.fst_add, Prod.fst_add, fst_orphans, fst_tok, add_zero, add_zero]
  · rw [← add_assoc]
    exact hi.2.takeTask (unlocked_of_ready hready rfl) hundisturbed
  · rw [add_comm (orphans _), ← add_assoc]
    refine Prog.Holds.andThen (holds_cancelPending env _ fun more => ?_)
    rw [add_right_comm]
    refine Prog.Holds.andThen (holds_closeClients ended target _ ?_)
    refine mcp_own fun s rest hi _ _ => ⟨own + more, by simp, ?_, trivial⟩
    rw [← add_assoc] at hi
    exact hi.2.closeReturned

/-! ## Every run -/

theorem McpRequest.holds {p : McpProg Unit} (h : McpRequest p) : McpHolds C D p (fun _ _ => True) own := by
  cases h with
  | proposeLaunch checks env operationId taskId serverId =>
      exact (holds_proposeLaunch checks env operationId taskId serverId).discard
  | resolveLaunch env taskId operationId expectedRevision decision =>
      exact (holds_resolveLaunch env taskId operationId expectedRevision decision).discard
  | proposeToolCall checks env operationId taskId serverId prepare =>
      exact (holds_proposeToolCall checks env operationId taskId serverId prepare).discard
  | resolveToolCall env taskId operationId expectedRevision decision =>
      exact (holds_resolveToolCall env taskId operationId expectedRevision decision).discard
  | closeTask env ended taskId => exact holds_close env ended (.task taskId)
  | closeAll env ended => exact holds_close env ended .all

/-- What others do beside the requests keeps the invariant. -/
theorem McpOutside.keeps {s s' : Shared McpWorld} (h : McpOutside s s') (hi : mcpInv m s) : mcpInv m s' := by
  cases h with
  | exits operationId => exact ⟨hi.1, hi.2.kill operationId⟩
  | daemon a hkeep =>
      refine ⟨⟨hi.1.nodup, fun c hc => ?_⟩, hi.2.of_authority (fun id hid => ?_) (fun id hid => ?_) (fun id _ hid => ?_)
        fun id hpending hid => ?_⟩
      · obtain ⟨r, hget, hof, hours⟩ := hi.1.exact c hc
        exact ⟨r, hkeep _ r hget hours, hof, hours⟩
      · obtain ⟨r, hget, hours, hrest⟩ := hid
        exact ⟨r, hkeep _ r hget hours, hours, hrest⟩
      · obtain ⟨r, hget, hours, hrest⟩ := hid
        exact ⟨r, hkeep _ r hget hours, hours, hrest⟩
      · obtain ⟨r, hget, hours, hrest⟩ := hid
        exact ⟨r, hkeep _ r hget hours, hours, hrest⟩
      · obtain ⟨r, hget, hours, -⟩ := hid
        obtain ⟨r', hget', hstate⟩ := hi.2.pending id hpending
        obtain rfl := Option.some.inj (hget'.symm.trans hget)
        exact ⟨r', hkeep _ r' hget hours, hstate⟩

theorem mcpInv_start {prepared : List LocalMcpServerLaunch} {manager : ManagerState}
    (h : ManagerState.new prepared = .ok manager) (a : AuthorityState) : mcpInv 0 ⟨a, .start manager⟩ := by
  obtain ⟨registered, rfl⟩ : ∃ registered, manager = ⟨registered, .empty, .empty, .empty⟩ := by
    unfold ManagerState.new at h
    cases hregistered : (prepared.foldlM (fun registered launch =>
      if (registered.get? launch.serverId).isSome then Except.error (LocalMcpRuntimeError.duplicateServer launch.serverId)
      else .ok (registered.put launch)) Keyed.empty) with
    | error e =>
        rw [hregistered] at h
        cases h
    | ok registered =>
        rw [hregistered] at h
        exact ⟨registered, (Except.ok.inj h).symm⟩
  have hpending : ∀ id, ¬(McpWorld.start ⟨registered, .empty, .empty, .empty⟩).Pending id := by
    rintro id (⟨p, hp⟩ | ⟨q, hq⟩)
    · cases hp
    · cases hq
  refine ⟨chargesOk_zero, ⟨⟨rfl, rfl, rfl, rfl, Multiset.nodup_zero, Multiset.nodup_zero, ?_⟩, fun t ht => ?_,
    fun c hc => ?_, fun id hid => absurd hid (hpending id), fun id hid => ?_, fun id hid => ?_, ?_⟩⟩
  · exact Multiset.disjoint_left.mpr fun {id} hid => absurd hid (Multiset.notMem_zero id)
  · exact absurd ht (Multiset.notMem_zero t)
  · exact absurd hc (Multiset.notMem_zero c)
  · rcases hid with hid | (⟨r, hr, -⟩ | hid) | hid
    · exact absurd hid (hpending id)
    · cases hr
    · cases hid
    · cases hid
  · rcases hid with ⟨c, hc⟩ | ⟨c, hc, -⟩
    · cases hc
    · cases hc
  · constructor <;> intros <;> first | contradiction | rfl

/-- **Clients of local MCP servers.** Whatever requests there are, however they interleave, and whichever servers exit:
as long as nothing disturbs a launch, a task has one client of a server at most, a task that has been closed has no
client of before, and a pending entry is one of an operation that can still be resolved. -/
theorem clientsSound_of_undisturbed {prepared : List LocalMcpServerLaunch} {manager : ManagerState} {a : AuthorityState}
    {pool : McpPool} (hnew : ManagerState.new prepared = .ok manager)
    (hrun : Relation.ReflTransGen (McpStep C D Undisturbed) ⟨⟨a, .start manager⟩, []⟩ pool) :
    ClientsSound pool.state := by
  have houtside (s s' : Shared McpWorld) (m : McpTokens) (hout : McpOutside s s') (hi : mcpInv m s) : mcpInv m s' :=
    hout.keeps hi
  have hstarts (s : Shared McpWorld) (p : McpProg Unit) (s' : Shared McpWorld) (m : McpTokens)
      (hstart : McpRequest p ∧ s' = s) (hi : mcpInv m s) :
      ∃ own, mcpInv (m + own) s' ∧ McpHolds C D p (fun _ _ => True) own := by
    refine ⟨0, ?_, hstart.1.holds⟩
    rw [hstart.2, add_zero]
    exact hi
  obtain ⟨tokens, hi, -⟩ := Threads.reachable houtside hstarts (mcpInv_start hnew a) hrun
  exact hi.2.sound

/-! ## A close that meets a launch halfway -/

instance McpWorld.Settled.decidable (w : McpWorld) (key : RuntimeKey) : Decidable (w.Settled key) :=
  inferInstanceAs (Decidable (∀ c ∈ w.live.values, c.key = key → w.manager.clients.get? key = some c))

instance Undisturbed.decidable : (op : McpOp) → (w : McpWorld) → Decidable (Undisturbed op w)
  | .takeLaunch taskId _ decision, w =>
      inferInstanceAs (Decidable (decision = .allowOnce → ∀ target ∈ w.closing, CloseTarget.covers target taskId = false))
  | .spawnClient client, w =>
      decidable_of_iff ((w.manager.pendingLaunches.get? client.operationId).isSome = true ∧ w.Settled client.key)
        (and_congr_left fun _ => Option.isSome_iff_exists)
  | .takeTask target, w =>
      inferInstanceAs (Decidable (∀ c ∈ w.live.values, target.covers c.key.taskId = true → w.Settled c.key))
  | .closeClient operationId ended, w => inferInstanceAs (Decidable (ended = true ∨ w.holders operationId ≤ 1))
  | .lockLaunch .., _ | .insertLaunch .., _ | .lockCall .., _ | .insertCall .., _ | .unlock, _ | .removeLaunch .., _
  | .endLaunch .., _ | .takeCall .., _ | .removeCall .., _ | .endCall .., _ | .dropClient .., _ | .insertClient .., _
  | .removeClient .., _ | .getClient .., _ | .lockClient .., _ | .unlockClient .., _ | .releaseClient .., _
  | .closeReturned .., _ => instDecidableTrue

/-- Whether an operation is ready and, if asked for, meets the condition. -/
def mcpCheck (condition : McpOp → McpWorld → Bool) : SharedOp McpOp → Shared McpWorld → Bool
  | .authority _, _ => true
  | .own op, s => op.ready s.own && condition op s.own

theorem allowed_of_mcpCheck {condition : McpOp → McpWorld → Prop} {check : McpOp → McpWorld → Bool}
    (hcheck : ∀ op w, check op w = true → condition op w) (op : SharedOp McpOp) (s : Shared McpWorld)
    (a : AuthorityState) (h : mcpCheck check op s = true) : mcpAllowed condition op ⟨a, s.own⟩ := by
  cases op with
  | authority op => trivial
  | own op =>
      obtain ⟨hready, hcondition⟩ := Bool.and_eq_true_iff.mp h
      exact ⟨hready, hcheck op s.own hcondition⟩

def sampleDigest : String := String.ofList (List.replicate 64 'a')

def sampleLaunch : LocalMcpServerLaunch where
  schemaVersion := 1
  serverId := "server"
  executable := "/bin/server"
  executableSha256 := sampleDigest
  argumentsDigest := sampleDigest
  argumentCount := 0
  workingDirectory := "/work"
  contextDigest := sampleDigest
  sandboxProfileDigest := sampleDigest
  rootsSnapshotSha256 := none
  lifecycle := .oneTask
  credentialScope := .serverLifetime
  runtimeIdentityDigest := sampleDigest

def sampleServerReceipt : LocalMcpServerRuntimeReceipt where
  schemaVersion := 1
  launch := sampleLaunch
  negotiatedProtocolVersion := "2025-06-18"
  serverName := "server"
  serverVersion := "1"
  enforcedSandboxProfileDigest := sampleDigest
  capabilitiesDigest := sampleDigest
  catalogDigest := sampleDigest
  runtimeIdentityDigest := sampleDigest
  tools := []
  credentialScope := .serverLifetime
  perCallIsolation := false

def sampleManager : ManagerState := ⟨Keyed.empty.put sampleLaunch, .empty, .empty, .empty⟩

/-- A launch is proposed and allowed, and the task is closed. -/
def sampleRequests : List (McpProg Unit) :=
  [(proposeLaunch sampleChecks sampleEnv sampleOperation sampleTask "server").discard,
    (resolveLaunch ⟨sampleEnv, fun _ => "", fun _ => .ok (), .launched sampleServerReceipt, fun _ => .ok ⟨3⟩, true⟩
      sampleTask sampleOperation 3 .allowOnce).discard,
    closeTask sampleEnv (fun _ => true) sampleTask]

def drySampleRequests (condition : McpOp → McpWorld → Bool) (schedule : List Nat) :
    Option (SharedPool McpOp McpAns LocalMcpRuntimeError McpWorld) :=
  sharedDryRun sampleDigests execMcp (mcpCheck condition) (.start sampleManager) sampleRequests schedule

theorem reaches_of_drySampleRequests {condition : McpOp → McpWorld → Prop} {check : McpOp → McpWorld → Bool}
    (hcheck : ∀ op w, check op w = true → condition op w) {schedule : List Nat}
    {pool' : SharedPool McpOp McpAns LocalMcpRuntimeError McpWorld}
    (h : drySampleRequests check schedule = some pool')
    (hlen : pool'.state.authority.journal.events.length ≤ maxEventLineBytes) :
    ∃ C a a', openAuthority C sampleDigests (fun _ => .ok ()) a.journal.file = .ok a ∧
      Relation.ReflTransGen (McpStep C sampleDigests condition) ⟨⟨a, .start sampleManager⟩, []⟩
        ⟨⟨a', pool'.state.own⟩, pool'.threads⟩ ∧ SameMemory a' pool'.state.authority := by
  refine reaches_of_sharedDryRun (fun op s a _ hop => allowed_of_mcpCheck hcheck op s a hop) (fun p hp s => ⟨?_, rfl⟩) h
    hlen
  simp only [sampleRequests, List.mem_cons, List.not_mem_nil, or_false] at hp
  rcases hp with rfl | rfl | rfl
  · exact .proposeLaunch ..
  · exact .resolveLaunch ..
  · exact .closeTask ..

/-- A server that is launched while its task is open. -/
theorem clientsSound_launched :
    ∃ (C : LineCodec EventEnvelope) (a : AuthorityState) (pool : McpPool),
      Relation.ReflTransGen (McpStep C sampleDigests Undisturbed) ⟨⟨a, .start sampleManager⟩, []⟩ pool ∧
      pool.state.own.live.values.map LocalMcpClient.operationId = [sampleOperation] ∧ ClientsSound pool.state := by
  have hdry : (drySampleRequests (fun op w => Undisturbed op w) (List.replicate 11 0 ++ List.replicate 22 1)).map
      (fun pool => (pool.state.own.live.values.map LocalMcpClient.operationId,
        pool.state.authority.journal.events.length)) = some ([sampleOperation], 11) := by decide +kernel
  obtain ⟨pool, hpool, hobserved⟩ := Option.map_eq_some_iff.mp hdry
  obtain ⟨hlive, hlength⟩ := Prod.mk.inj hobserved
  obtain ⟨C, a, a', -, hrun, -⟩ := reaches_of_drySampleRequests (fun _ _ h => of_decide_eq_true h) hpool
    (by rw [hlength]; decide)
  have hnew : ManagerState.new [sampleLaunch] = .ok sampleManager := rfl
  exact ⟨C, a, _, hrun, hlive, clientsSound_of_undisturbed hnew hrun⟩

/-- The whole close runs between the dispatch of a launch and the start of its client. -/
theorem disturbed_launch :
    ∃ (C : LineCodec EventEnvelope) (a : AuthorityState), ManagerState.new [sampleLaunch] = .ok sampleManager ∧
      openAuthority C sampleDigests (fun _ => .ok ()) a.journal.file = .ok a ∧
      ¬∀ pool, Relation.ReflTransGen (McpStep C sampleDigests fun _ _ => True) ⟨⟨a, .start sampleManager⟩, []⟩ pool →
        ClientsSound pool.state := by
  have hdry : (drySampleRequests (fun _ _ => true)
      (List.replicate 11 0 ++ List.replicate 11 1 ++ List.replicate 3 2 ++ List.replicate 12 1)).map
      (fun pool => (pool.state.own.closed, (pool.state.own.live.get? sampleOperation).isSome,
        pool.state.authority.journal.events.length)) = some ([sampleOperation], true, 11) := by decide +kernel
  obtain ⟨pool, hpool, hobserved⟩ := Option.map_eq_some_iff.mp hdry
  simp only [Prod.mk.injEq] at hobserved
  obtain ⟨hclosed, hlive, hlength⟩ := hobserved
  have htrue (op : McpOp) (w : McpWorld) (_ : true = true) : (fun _ _ => True : McpOp → McpWorld → Prop) op w := trivial
  obtain ⟨C, a, a', hopen, hrun, -⟩ := reaches_of_drySampleRequests htrue hpool (by rw [hlength]; decide)
  refine ⟨C, a, rfl, hopen, fun h => ?_⟩
  have hdead := (h _ hrun).closed sampleOperation (hclosed ▸ List.mem_singleton_self _)
  rw [hdead] at hlive
  exact Bool.false_ne_true hlive

end HyperTerm.Daemon
