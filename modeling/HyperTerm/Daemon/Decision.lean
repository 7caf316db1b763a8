import HyperTerm.Daemon.DryRun

/-!
# The decision governs the dispatch, in every interleaving

The decision on an operation and the transition that follows from it are two records, and between them other
threads record what they like. What a method has read stays true in the sense of `OperationReducer.Extends`, and
that is enough: a transition is accepted only at the revision it was meant for.

`Keeps` is the proof rule, one lemma a method, and `decision_governs_operation` puts them together.
-/

namespace HyperTerm.Daemon
open HyperTerm.Protocol HyperTerm.Core HyperTerm.Lib

variable {C : LineCodec EventEnvelope} {D : Digests} {α β : Type}

/-! ## One record -/

/-- The state of the authority between two records. -/
structure DecisionInv (D : Digests) (a : AuthorityState) : Prop where
  folded : foldEvents D a.journal.events = .ok (a.operations, a.projectors)
  governed : Governed a.journal.events a.operations

def Later (a b : AuthorityState) : Prop := a.operations.Extends b.operations

theorem later_refl (a : AuthorityState) : Later a a := OperationReducer.Extends.refl _

theorem later_trans (a b c : AuthorityState) (h₁ : Later a b) (h₂ : Later b c) : Later a c :=
  OperationReducer.Extends.trans h₁ h₂

/-- The event moves operations only as the reducer should have it. -/
def NewEvent.Permitted (a : AuthorityState) (event : NewEvent) : Prop :=
  ∀ revision fromState toState actor reason id record,
    event.payload = .operationStateChanged revision fromState toState actor reason →
      event.operationId = some id → a.operations.get id = some record → revision = record.revision + 1 →
        Core.Permitted record toState

/-- The reducer has accepted the event, some time between the two states. -/
def Accepted (event : NewEvent) (a b : AuthorityState) : Prop :=
  ∃ operations operations' envelope, a.operations.Extends operations ∧
    operations.apply envelope = .ok operations' ∧ envelope.payload = event.payload ∧
    envelope.operationId = event.operationId ∧ operations'.Extends b.operations

theorem record_keeps (C : LineCodec EventEnvelope) {a : AuthorityState} (env : RecordEnv) {event : NewEvent}
    (h : DecisionInv D a) (hpermitted : NewEvent.Permitted a event) :
    DecisionInv D (a.record C D env event).1 ∧ Later a (a.record C D env event).1 ∧
      ∀ r, (a.record C D env event).2 = .ok r → Accepted event a (a.record C D env event).1 := by
  have hout := a.record_outcome (C := C) (D := D) env event
  generalize (a.record C D env event).1 = a', (a.record C D env event).2 = result at hout ⊢
  cases hout with
  | refused e => exact ⟨h, later_refl a, fun _ hr => nomatch hr⟩
  | ioFailed file _ => exact ⟨⟨h.folded, h.governed⟩, OperationReducer.Extends.refl _, fun _ hr => nomatch hr⟩
  | recorded envelope operations projector patch henv htask hops hproj hio hlen =>
      have hextends := OperationReducer.apply_extends hops
      refine ⟨⟨?_, governed_apply h.governed ?_ hops⟩, hextends, fun _ _ =>
        ⟨_, _, envelope, .refl _, hops, henv.payload, henv.operationId, .refl _⟩⟩
      · refine foldlM_concat_eq_ok.mpr ⟨_, h.folded, ?_⟩
        simp only [foldEvent, henv.taskId, bind_eq_ok, operationError_eq_ok, projectorError_eq_ok, pure_eq_ok,
          Prod.exists]
        exact ⟨_, hops, _, _, hproj, rfl⟩
      · intro revision fromState toState actor reason id record hpayload hid
        exact hpermitted revision fromState toState actor reason id record (henv.payload ▸ hpayload)
          (henv.operationId ▸ hid)

/-! ## The proof rule -/

/-- The method keeps the invariant whatever others record meanwhile, and its value meets the postcondition. -/
def Keeps (C : LineCodec EventEnvelope) (D : Digests) (m : Method α) (post : α → AuthorityState → Prop)
    (a : AuthorityState) : Prop :=
  m.Safe (execAuthority C D) Later Later (DecisionInv D) (fun r b => ∀ x, r = .ok x → post x b) a

theorem Keeps.bind {m : Method α} {f : α → Method β} {P : α → AuthorityState → Prop}
    {post : β → AuthorityState → Prop} {a : AuthorityState} (hm : Keeps C D m P a)
    (hf : ∀ x b, Later a b → DecisionInv D b → P x b → Keeps C D (f x) post b) : Keeps C D (m >>= f) post a := by
  refine Prog.Safe.bind later_refl (Prog.Safe.frame later_trans (fun _ _ h => h) (later_refl a) hm)
    (fun x b hi hmid => hf x b hmid.1 hi (hmid.2 x rfl)) fun e b _ _ x hx => nomatch hx

theorem Keeps.later {m : Method α} {post : α → AuthorityState → Prop} {a b : AuthorityState}
    (h : Keeps C D m post a) (hb : Later a b) : Keeps C D m post b :=
  Prog.Safe.mono later_trans h hb

theorem keeps_lift {r : Except DaemonError α} {post : α → AuthorityState → Prop} {a : AuthorityState}
    (h : ∀ x b, r = .ok x → Later a b → DecisionInv D b → post x b) : Keeps C D (Method.lift r) post a :=
  Prog.safe_ret fun b hb hi x hx => h x b hx hb hi

theorem keeps_pure {x : α} {post : α → AuthorityState → Prop} {a : AuthorityState}
    (h : ∀ b, Later a b → DecisionInv D b → post x b) : Keeps C D (pure x) post a :=
  Prog.safe_ret fun b hb hi _ hy => Except.ok.inj hy ▸ h b hb hi

theorem keeps_fail {e : DaemonError} {post : α → AuthorityState → Prop} {a : AuthorityState} :
    Keeps C D (Prog.fail e : Method α) post a :=
  Prog.safe_ret fun _ _ _ _ hx => nomatch hx

theorem Keeps.attempt {m : Method α} {post : α → AuthorityState → Prop} {a : AuthorityState}
    (h : Keeps C D m post a) : Keeps C D (m.attempt : Method (Except DaemonError α)) (fun _ _ => True) a :=
  Prog.Safe.attempt (Prog.Safe.weaken h fun _ _ _ _ _ _ => trivial)

theorem Keeps.weaken {m : Method α} {post post' : α → AuthorityState → Prop} {a : AuthorityState}
    (h : Keeps C D m post a) (hpost : ∀ x b, Later a b → post x b → post' x b) : Keeps C D m post' a :=
  Prog.Safe.weaken (Prog.Safe.frame later_trans (fun _ _ h => h) (later_refl a) h)
    fun _ _ _ hr x hx => hpost x _ hr.1 (hr.2 x hx)

/-- The rest of a method after a check or a computation. -/
theorem keeps_lift_bind {r : Except DaemonError α} {f : α → Method β} {post : β → AuthorityState → Prop}
    {a : AuthorityState} (h : ∀ x, r = .ok x → Keeps C D (f x) post a) :
    Keeps C D (Method.lift r >>= f) post a :=
  Keeps.bind (P := fun x _ => r = .ok x) (keeps_lift fun _ _ hx _ _ => hx) fun x _ hb _ hx => (h x hx).later hb

theorem keeps_ensure_bind {p : Prop} [Decidable p] {e : DaemonError} {f : Unit → Method β}
    {post : β → AuthorityState → Prop} {a : AuthorityState} (h : p → Keeps C D (f ()) post a) :
    Keeps C D (Method.ensure p e >>= f) post a := by
  refine keeps_lift_bind fun _ hr => h ?_
  split_ifs at hr with hp
  exact hp

theorem keeps_record {env : RecordEnv} {event : NewEvent} {a : AuthorityState}
    (h : ∀ b, Later a b → NewEvent.Permitted b event) :
    Keeps C D (Method.record env event) (fun _ b => Accepted event a b) a := by
  refine Keeps.bind (P := fun r b => ∀ x, r = .ok x → Accepted event a b)
    (Prog.safe_perform fun b hb hi => ?_) fun r b _ _ hr => keeps_lift fun x c hx hc _ => ?_
  · obtain ⟨hinv, hlater, haccepted⟩ := record_keeps C env hi (h b hb)
    refine ⟨hinv, hlater, fun c hc _ r hr x hx => ?_⟩
    obtain ⟨ops, ops', envelope, h₁, h₂, h₃, h₄, h₅⟩ := haccepted x ((Except.ok.inj hr).trans hx)
    exact ⟨ops, ops', envelope, OperationReducer.Extends.trans hb h₁, h₂, h₃, h₄, h₅.trans hc⟩
  · cases r with
    | error e => exact nomatch hx
    | ok y =>
        obtain ⟨ops, ops', envelope, h₁, h₂, h₃, h₄, h₅⟩ := hr y rfl
        exact ⟨ops, ops', envelope, h₁, h₂, h₃, h₄, h₅.trans hc⟩

/-! ## What a method knows -/

/-- The record has been read. -/
def Known (r : OperationRecord) (b : AuthorityState) : Prop :=
  ∃ r', b.operations.get r.operationId = some r' ∧ r.Precedes r'

/-- The operation has been moved to the state at the revision. -/
def MovedTo (id : OperationId) (revision : Nat) (state : OperationState) (b : AuthorityState) : Prop :=
  ∃ r, b.operations.get id = some r ∧ revision ≤ r.revision ∧ (r.revision = revision → r.state = state)

def DecidedBy (id : OperationId) (decision : PermissionDecision) (b : AuthorityState) : Prop :=
  ∃ r, b.operations.get id = some r ∧ r.permissionDecision = some decision

/-- Now and later, a transition at the revision is permitted. -/
def MayMove (id : OperationId) (revision : Nat) (toState : OperationState) (a : AuthorityState) : Prop :=
  ∀ b, Later a b → ∀ r, b.operations.get id = some r → r.revision = revision → Permitted r toState

theorem Known.movedTo {r : OperationRecord} {b : AuthorityState} (h : Known r b) :
    MovedTo r.operationId r.revision r.state b := by
  obtain ⟨r', hget, hprec⟩ := h
  exact ⟨r', hget, hprec.revision, hprec.state⟩

theorem MovedTo.later {id : OperationId} {revision : Nat} {state : OperationState} {a b : AuthorityState}
    (h : MovedTo id revision state a) (hb : Later a b) : MovedTo id revision state b := by
  obtain ⟨r, hget, hle, hstate⟩ := h
  obtain ⟨r', hget', hprec⟩ := hb id r hget
  refine ⟨r', hget', hle.trans hprec.revision, fun hrev => ?_⟩
  have hrevision := hprec.revision
  rw [hprec.state (by omega), hstate (by omega)]

theorem DecidedBy.later {id : OperationId} {decision : PermissionDecision} {a b : AuthorityState}
    (h : DecidedBy id decision a) (hb : Later a b) : DecidedBy id decision b := by
  obtain ⟨r, hget, hdecision⟩ := h
  obtain ⟨r', hget', hprec⟩ := hb id r hget
  exact ⟨r', hget', hprec.decision decision hdecision⟩

theorem MayMove.later {id : OperationId} {revision : Nat} {toState : OperationState} {a b : AuthorityState}
    (h : MayMove id revision toState a) (hb : Later a b) : MayMove id revision toState b :=
  fun c hc => h c (later_trans _ _ _ hb hc)

/-- A target for which the reducer needs no help. -/
theorem mayMove_other {id : OperationId} {revision : Nat} {toState : OperationState} {a : AuthorityState}
    (hauthorized : toState ≠ .authorized) (hfailed : toState ≠ .failed) : MayMove id revision toState a :=
  fun _ _ _ _ _ => ⟨fun h => absurd h hauthorized, fun h => absurd h hfailed⟩

theorem mayMove_authorized {id : OperationId} {revision : Nat} {decision : PermissionDecision} {a : AuthorityState}
    (h : DecidedBy id decision a) (hallows : PermissionDecision.allows decision = true) :
    MayMove id revision .authorized a := by
  intro b hb r hget _
  obtain ⟨r', hget', hdecision⟩ := h.later hb
  obtain rfl : r' = r := Option.some.inj (hget'.symm.trans hget)
  exact ⟨fun _ => ⟨decision, hdecision, hallows⟩, fun h => nomatch h⟩

theorem mayMove_failed {id : OperationId} {revision : Nat} {state : OperationState} {a : AuthorityState}
    (h : MovedTo id revision state a) (hstate : state ≠ .policyCheck) : MayMove id revision .failed a := by
  intro b hb r hget hrev
  obtain ⟨r', hget', -, hstate'⟩ := h.later hb
  obtain rfl : r' = r := Option.some.inj (hget'.symm.trans hget)
  exact ⟨fun h => (nomatch h), fun _ => hstate' hrev ▸ hstate⟩

/-- From a state past the policy check an operation may go wherever the decision allows. -/
theorem mayMove_of_movedTo {id : OperationId} {revision : Nat} {state toState : OperationState} {a : AuthorityState}
    (h : MovedTo id revision state a) (hstate : state ≠ .policyCheck) (hto : toState ≠ .authorized) :
    MayMove id revision toState a := by
  by_cases hfailed : toState = .failed
  · exact hfailed ▸ mayMove_failed h hstate
  · exact mayMove_other hto hfailed

theorem movedTo_of_accepted {a b : AuthorityState} {taskId : TaskId} {id : OperationId} {revision : Nat}
    {fromState toState : OperationState} {actor : Actor} {reason : Option String}
    (h : Accepted (Method.operationEvent taskId id (.operationStateChanged revision fromState toState actor reason)) a b) :
    MovedTo id revision toState b := by
  obtain ⟨operations, operations', envelope, -, happly, hpayload, hid, hextends⟩ := h
  have hpayload : envelope.payload = .operationStateChanged revision fromState toState actor reason := hpayload
  have hid : envelope.operationId = some id := hid
  cases OperationReducer.apply_cases happly with
  | proposed _ _ _ _ _ _ hp => exact nomatch hpayload.symm.trans hp
  | requested _ _ _ _ hp => exact nomatch hpayload.symm.trans hp
  | decided _ _ _ hp => exact nomatch hpayload.symm.trans hp
  | other _ hmoved => exact absurd hpayload (hmoved _ _ _ _ _)
  | moved record toState' actor' reason' hp hid' hget hvalid =>
      obtain ⟨rfl, -, rfl, -, -⟩ := DomainEvent.operationStateChanged.inj (hpayload.symm.trans hp)
      obtain rfl := Option.some.inj (hid.symm.trans hid')
      obtain ⟨r', hget', hprec⟩ := hextends _ _ (operations.get_put_self _)
      exact ⟨r', hget', hprec.revision, hprec.state⟩

theorem decidedBy_of_accepted {a b : AuthorityState} {taskId : TaskId} {id : OperationId} {revision : Nat}
    {decision : PermissionDecision} {actor : Actor}
    (h : Accepted (Method.operationEvent taskId id (.permissionDecided revision decision actor)) a b) :
    DecidedBy id decision b := by
  obtain ⟨operations, operations', envelope, -, happly, hpayload, hid, hextends⟩ := h
  have hpayload : envelope.payload = .permissionDecided revision decision actor := hpayload
  have hid : envelope.operationId = some id := hid
  cases OperationReducer.apply_cases happly with
  | proposed _ _ _ _ _ _ hp => exact nomatch hpayload.symm.trans hp
  | requested _ _ _ _ hp => exact nomatch hpayload.symm.trans hp
  | moved _ _ _ _ hp => exact nomatch hpayload.symm.trans hp
  | other _ _ _ hdecided => exact absurd hpayload (hdecided _ _ _)
  | decided record decision' actor' hp hid' hget =>
      obtain ⟨rfl, rfl, -⟩ := DomainEvent.permissionDecided.inj (hpayload.symm.trans hp)
      obtain rfl := Option.some.inj (hid.symm.trans hid')
      obtain ⟨r', hget', hprec⟩ := hextends _ _ (operations.get_put_self _)
      exact ⟨r', hget', hprec.decision _ rfl⟩

/-! ## One lemma a method -/

theorem keeps_read {a : AuthorityState} :
    Keeps C D Method.read (fun x b => x.1.Extends b.operations) a := by
  refine Prog.safe_perform fun b hb hi => ⟨hi, later_refl b, ?_⟩
  rintro c hc - x hx
  exact Except.ok.inj hx ▸ hc

theorem keeps_operation {id : OperationId} {a : AuthorityState} :
    Keeps C D (Method.operation id) (fun r b => r.operationId = id ∧ Known r b) a := by
  refine keeps_read.bind fun x b _ _ hx => keeps_lift fun r c hr hc _ => ?_
  have hget := okOr_eq_ok.mp hr
  obtain rfl := OperationReducer.operationId_eq_of_get hget
  exact ⟨rfl, hx.trans hc _ r hget⟩

theorem keeps_requireTask {taskId : TaskId} {a : AuthorityState} :
    Keeps C D (Method.requireTask taskId) (fun _ _ => True) a :=
  keeps_read.bind fun _ _ _ _ _ => keeps_lift fun _ _ _ _ _ => trivial

/-- An event that is no transition needs no permission. -/
theorem keeps_event {env : RecordEnv} {taskId : TaskId} {id : OperationId} {payload : DomainEvent} {a : AuthorityState}
    (h : ∀ rev f t a re, payload ≠ .operationStateChanged rev f t a re) :
    Keeps C D (Method.record env (Method.operationEvent taskId id payload))
      (fun _ b => Accepted (Method.operationEvent taskId id payload) a b) a :=
  keeps_record fun _ _ _ _ _ _ _ _ _ hp => absurd hp (h _ _ _ _ _)

theorem validateOperationScope_eq_ok {r : OperationRecord} {taskId : TaskId} {expectedRevision : Nat}
    (h : validateOperationScope r taskId expectedRevision = .ok ()) :
    r.taskId = taskId ∧ r.revision = expectedRevision := by
  unfold validateOperationScope at h
  split_ifs at h with htask hrev
  exact ⟨not_not.mp htask, not_not.mp hrev⟩

theorem keeps_transition {env : RecordEnv} {taskId : TaskId} {id : OperationId} {expectedRevision : Nat}
    {toState : OperationState} {actor : Actor} {reason : Option String} {a : AuthorityState}
    (h : MayMove id expectedRevision toState a) :
    Keeps C D (transition env taskId id expectedRevision toState actor reason)
      (fun _ b => MovedTo id (expectedRevision + 1) toState b) a := by
  refine keeps_operation.bind fun current b hb _ _ => keeps_lift_bind fun _ _ => ?_
  refine (keeps_record fun c hc => ?_).bind fun _ c _ _ haccepted =>
    keeps_operation.weaken fun _ _ hlater _ => (movedTo_of_accepted haccepted).later hlater
  intro revision fromState toState' actor' reason' id' record hpayload hid hget hrev
  obtain ⟨rfl, -, rfl, -, -⟩ := DomainEvent.operationStateChanged.inj hpayload
  obtain rfl := Option.some.inj hid
  exact h c (later_trans _ _ _ hb hc) record hget (by omega)

section Methods

open Method

variable {env : Nat → RecordEnv} {taskId : TaskId} {id : OperationId} {expectedRevision : Nat} {a : AuthorityState}

theorem keeps_proposeOperation (checks : ProposalChecks) (kind : OperationKind) (action : OperationAction)
    (summary : String) (risk : RiskClass) (capabilities : List String) :
    Keeps C D (proposeOperation checks env id taskId kind action summary risk capabilities) (fun _ _ => True) a := by
  refine keeps_requireTask.bind fun _ _ _ _ _ => keeps_lift_bind fun _ _ => ?_
  refine (keeps_event (by simp)).bind fun _ _ _ _ _ => ?_
  refine (keeps_transition (mayMove_other (by simp) (by simp))).bind fun _ _ _ _ _ => ?_
  refine (keeps_transition (mayMove_other (by simp) (by simp))).bind fun waiting _ _ _ _ => ?_
  refine keeps_lift_bind fun approval _ => (keeps_event (by simp)).bind fun _ _ _ _ _ => ?_
  exact keeps_pure fun _ _ _ => trivial

theorem keeps_activateAuthorizedSandbox (operationRevision : Nat) (prepared : PreparedSandbox)
    (activated : Except DaemonError Unit) :
    Keeps C D (activateAuthorizedSandbox env taskId id operationRevision prepared activated) (fun _ _ => True) a := by
  refine (keeps_event (by simp)).bind fun _ _ _ _ _ => (keeps_event (by simp)).bind fun _ _ _ _ _ => ?_
  exact (keeps_event (by simp)).bind fun _ _ _ _ _ => keeps_lift fun _ _ _ _ _ => trivial

theorem keeps_decidePermission (decision : PermissionDecision)
    (prepare : OperationRecord → Except DaemonError PreparedSandbox) (activated : Except DaemonError Unit) :
    Keeps C D (decidePermission env taskId id expectedRevision decision prepare activated) (fun _ _ => True) a := by
  refine keeps_operation.bind fun current _ _ _ _ => keeps_lift_bind fun _ _ => keeps_ensure_bind fun _ => ?_
  refine keeps_lift_bind fun prepared _ => (keeps_event (by simp)).bind fun _ b _ _ haccepted => ?_
  have hdecided := decidedBy_of_accepted haccepted
  -- The decision is journalled and final, so the transition may rely on it at any later time.
  have hmay : MayMove id expectedRevision
      (if PermissionDecision.allows decision then .authorized else .cancelled) b := by
    split_ifs with hallows
    · exact mayMove_authorized hdecided hallows
    · exact mayMove_other (by simp) (by simp)
  refine (keeps_transition hmay).bind fun updated _ _ _ _ => ?_
  cases prepared with
  | none => exact keeps_operation.weaken fun _ _ _ _ => trivial
  | some prepared =>
      exact (keeps_activateAuthorizedSandbox updated.revision prepared activated).bind
        fun _ _ _ _ _ => keeps_operation.weaken fun _ _ _ _ => trivial

theorem keeps_beginOperation (env : RecordEnv) :
    Keeps C D (beginOperation env taskId id expectedRevision) (fun _ _ => True) a := by
  refine keeps_operation.bind fun current _ _ _ _ => keeps_lift_bind fun _ _ => ?_
  refine keeps_ensure_bind fun _ => keeps_ensure_bind fun _ => ?_
  exact (keeps_transition (mayMove_other (by simp) (by simp))).weaken fun _ _ _ _ => trivial

theorem keeps_recordSandboxReceipt (revision : Nat) (compiled : CompiledSandboxProfile)
    (startedAtMs finishedAtMs : Nat) (outcome : SandboxOutcome) (exitCode : Option Nat) :
    Keeps C D (recordSandboxReceipt env taskId id revision compiled startedAtMs finishedAtMs outcome exitCode)
      (fun _ _ => True) a :=
  (keeps_event (by simp)).bind fun _ _ _ _ _ => (keeps_event (by simp)).weaken fun _ _ _ _ => trivial

theorem keeps_abandonDispatch {revision : Nat} (h : MovedTo id revision .dispatching a)
    (authorized : AuthorizedSandbox) (finishedAtMs : Nat) (outcome : SandboxOutcome) (reason : String) :
    Keeps C D (abandonDispatch env taskId id revision authorized finishedAtMs outcome reason) (fun _ _ => True) a := by
  refine (keeps_recordSandboxReceipt _ _ _ _ _ _).attempt.bind fun _ b hb _ _ => ?_
  refine (keeps_transition (mayMove_failed (h.later hb) (by simp))).attempt.bind fun _ _ _ _ _ => ?_
  exact keeps_pure fun _ _ _ => trivial

theorem keeps_dispatchTerminal (consumed : Except DaemonError AuthorizedSandbox) (spawn : TerminalSpawn)
    (finishedAtMs : Nat) :
    Keeps C D (dispatchTerminal env taskId id expectedRevision consumed spawn finishedAtMs) (fun _ _ => True) a := by
  refine keeps_operation.bind fun current _ _ _ _ => keeps_lift_bind fun _ _ => ?_
  refine keeps_ensure_bind fun _ => keeps_ensure_bind fun _ => keeps_ensure_bind fun _ => ?_
  refine keeps_lift_bind fun authorized _ => ?_
  refine (keeps_transition (mayMove_other (by simp) (by simp))).bind fun _ b _ _ hmoved => ?_
  cases spawn with
  | failed message =>
      exact (keeps_abandonDispatch hmoved authorized _ _ _).bind fun _ _ _ _ _ => keeps_fail
  | opened terminalId command size monitor =>
      refine (keeps_event (by simp)).attempt.bind fun opened c hc _ _ => ?_
      cases opened with
      | error e =>
          exact (keeps_abandonDispatch (hmoved.later hc) authorized _ _ _).bind fun _ _ _ _ _ => keeps_fail
      | ok _ =>
          cases monitor with
          | ok _ => exact keeps_pure fun _ _ _ => trivial
          | error e =>
              refine (keeps_event (by simp)).attempt.bind fun _ d hd _ _ => ?_
              exact (keeps_abandonDispatch ((hmoved.later hc).later hd) authorized _ _ _).bind
                fun _ _ _ _ _ => keeps_fail

theorem keeps_finishIsolatedTask {revision : Nat} {state : OperationState} (h : MovedTo id revision .dispatching a)
    (hstate : state ≠ .authorized) (authorized : AuthorizedSandbox) (startedAtMs finishedAtMs : Nat)
    (exitCode : Option Nat) (inventory : String) (outcome : SandboxOutcome) :
    Keeps C D (finishIsolatedTask env taskId id revision authorized startedAtMs finishedAtMs exitCode inventory
      outcome state) (fun _ _ => True) a := by
  refine (keeps_recordSandboxReceipt _ _ _ _ _ _).bind fun _ b hb _ _ => ?_
  exact (keeps_transition (mayMove_of_movedTo (h.later hb) (by simp) hstate)).bind
    fun _ _ _ _ _ => keeps_pure fun _ _ _ => trivial

theorem keeps_dispatchIsolatedTask (admitted : Except DaemonError Unit)
    (consumed : Except DaemonError AuthorizedSandbox) (run : IsolatedRun) :
    Keeps C D (dispatchIsolatedTask env taskId id expectedRevision admitted consumed run) (fun _ _ => True) a := by
  refine keeps_operation.bind fun current _ _ _ _ => keeps_lift_bind fun _ _ => ?_
  refine keeps_ensure_bind fun _ => keeps_ensure_bind fun _ => keeps_lift_bind fun _ _ => ?_
  refine keeps_ensure_bind fun _ => keeps_lift_bind fun authorized _ => ?_
  refine (keeps_transition (mayMove_other (by simp) (by simp))).bind fun _ b _ _ hmoved => ?_
  cases run with
  | interrupted e => exact keeps_fail
  | notMaterialized message =>
      exact (keeps_transition (mayMove_failed hmoved (by simp))).attempt.bind fun _ _ _ _ _ => keeps_fail
  | failedClosed message finishedAtMs =>
      exact (keeps_abandonDispatch hmoved authorized _ _ _).bind fun _ _ _ _ _ => keeps_fail
  | succeeded => exact keeps_finishIsolatedTask hmoved (by simp) authorized _ _ _ _ _
  | cancelled => exact keeps_finishIsolatedTask hmoved (by simp) authorized _ _ _ _ _
  | violated => exact keeps_finishIsolatedTask hmoved (by simp) authorized _ _ _ _ _
  | failed => exact keeps_finishIsolatedTask hmoved (by simp) authorized _ _ _ _ _

theorem keeps_transitionCurrent (env : RecordEnv) {target : OperationState} (htarget : target ≠ .authorized)
    (reason : String) : Keeps C D (transitionCurrent env taskId id target reason) (fun _ _ => True) a := by
  refine keeps_operation.bind fun current b _ _ hcurrent => ?_
  obtain ⟨rfl, hknown⟩ := hcurrent
  split_ifs with hstate
  · exact keeps_pure fun _ _ _ => trivial
  · refine (keeps_transition (mayMove_of_movedTo hknown.movedTo ?_ htarget)).bind
      fun _ _ _ _ _ => keeps_pure fun _ _ _ => trivial
    rw [not_not.mp hstate]
    simp

theorem keeps_cancelBrokeredMcpOperation (reason : String) :
    Keeps C D (cancelBrokeredMcpOperation env taskId id reason) (fun _ _ => True) a := by
  have hcancel (current : OperationRecord) (b : AuthorityState) : Keeps C D (do
      let _ ← transition (env 1) taskId id current.revision .cancelled .system (some reason)
      return true) (fun _ _ => True) b :=
    (keeps_transition (mayMove_other (by simp) (by simp))).bind fun _ _ _ _ _ => keeps_pure fun _ _ _ => trivial
  refine keeps_operation.bind fun current b _ _ _ => ?_
  split_ifs
  · exact keeps_pure fun _ _ _ => trivial
  · exact (keeps_event (by simp)).bind fun _ _ _ _ _ => hcancel current _
  · exact hcancel current b

theorem keeps_completeOperation (completion : OperationCompletion) :
    Keeps C D (completeOperation env taskId id expectedRevision completion) (fun _ _ => True) a := by
  refine keeps_operation.bind fun current b _ _ hcurrent => ?_
  obtain ⟨rfl, hknown⟩ := hcurrent
  refine keeps_lift_bind fun _ hscope => keeps_ensure_bind fun _ => keeps_lift_bind fun outcome _ => ?_
  refine keeps_ensure_bind fun hstate => keeps_lift_bind fun executor _ => keeps_lift_bind fun summary _ => ?_
  refine keeps_ensure_bind fun _ => (keeps_event (by simp)).bind fun _ c hc _ _ => ?_
  have hrevision := (validateOperationScope_eq_ok hscope).2
  have hmoved : MovedTo current.operationId expectedRevision current.state c := hrevision ▸ hknown.movedTo.later hc
  refine (keeps_transition (mayMove_of_movedTo hmoved ?_ ?_)).weaken fun _ _ _ _ => trivial
  · rcases hstate with hstate | ⟨hstate, -⟩ <;> simp [hstate]
  · cases outcome <;> simp [targetState]

theorem keeps_reconcileEach {target : OperationState} (htarget : target ≠ .authorized) (reason : String)
    {records : List OperationRecord} (h : ∀ r ∈ records, Known r a ∧ r.state ≠ .policyCheck) :
    Keeps C D (reconcileEach env target reason records) (fun _ _ => True) a := by
  induction records generalizing a env with
  | nil => exact keeps_pure fun _ _ _ => trivial
  | cons current records ih =>
      rw [List.forall_mem_cons] at h
      refine (keeps_transition (mayMove_of_movedTo h.1.1.movedTo h.1.2 htarget)).bind fun _ b hb _ _ => ?_
      refine ih fun r hr => ⟨?_, (h.2 r hr).2⟩
      obtain ⟨r', hget, hprec⟩ := (h.2 r hr).1
      obtain ⟨r'', hget', hprec'⟩ := hb _ _ hget
      exact ⟨r'', hget', hprec.trans hprec'⟩

theorem keeps_reconcileInterruptedDispatches {order : List OperationRecord → List OperationRecord}
    (horder : ∀ l, (order l).Perm l) :
    Keeps C D (reconcileInterruptedDispatches env order) (fun _ _ => True) a := by
  refine keeps_read.bind fun x b _ _ hx => keeps_reconcileEach (by simp) _ fun r hr => ?_
  obtain ⟨hmem, hstate⟩ := List.mem_filter.mp hr
  exact ⟨hx _ _ (Keyed.mem_values.mp ((horder _).mem_iff.mp hmem)), by simp_all⟩

theorem keeps_reconcileUnrecoverableSandboxAuthorizations {order : List OperationRecord → List OperationRecord}
    (horder : ∀ l, (order l).Perm l) :
    Keeps C D (reconcileUnrecoverableSandboxAuthorizations env order) (fun _ _ => True) a := by
  refine keeps_read.bind fun x b _ _ hx => keeps_reconcileEach (by simp) _ fun r hr => ?_
  obtain ⟨hmem, hstate⟩ := List.mem_filter.mp hr
  exact ⟨hx _ _ (Keyed.mem_values.mp ((horder _).mem_iff.mp hmem)), by simp_all⟩

end Methods

/-! ## Runs of the daemon -/

theorem Keeps.discard {m : Method α} {a : AuthorityState} (h : Keeps C D m (fun _ _ => True) a) :
    Keeps C D m.discard (fun _ _ => True) a := h.bind fun _ _ _ _ _ => keeps_pure fun _ _ _ => trivial

theorem Request.keeps {m : Method Unit} (h : Request m) (a : AuthorityState) : Keeps C D m (fun _ _ => True) a := by
  cases h with
  | event env event h =>
      refine (keeps_record fun b _ revision fromState toState actor reason id record hp => ?_).weaken
        fun _ _ _ _ => trivial
      rw [hp] at h
      exact nomatch h
  | propose => exact (keeps_proposeOperation _ _ _ _ _ _).discard
  | decide => exact (keeps_decidePermission _ _ _).discard
  | begin => exact (keeps_beginOperation _).discard
  | dispatchTerminal => exact (keeps_dispatchTerminal _ _ _).discard
  | dispatchIsolatedTask => exact keeps_dispatchIsolatedTask _ _ _
  | transitionCurrent env _ _ _ reason h => exact keeps_transitionCurrent env h reason
  | cancelBrokeredMcp => exact (keeps_cancelBrokeredMcpOperation _).discard
  | complete => exact (keeps_completeOperation _).discard
  | reconcileDispatches env order h => exact keeps_reconcileInterruptedDispatches h
  | reconcileAuthorizations env order h => exact keeps_reconcileUnrecoverableSandboxAuthorizations h

variable {readArtifact : AcceptedGenUiArtifact → Except String Unit}

/-- The memory of a daemon is what its journal says. -/
theorem operations_of_openAuthority {a b : AuthorityState} {file : List UInt8}
    (h : openAuthority C D readArtifact file = .ok a) (hevents : a.journal.events = b.journal.events)
    (hfolded : foldEvents D b.journal.events = .ok (b.operations, b.projectors)) :
    a.operations = b.operations ∧ a.projectors = b.projectors := by
  obtain ⟨-, -, createdTasks, hreplay⟩ := openAuthority_eq_ok.mp h
  have hfold := foldEvents_of_replayLoop hreplay
  rw [hevents, hfolded] at hfold
  exact ⟨(congrArg Prod.fst (Except.ok.inj hfold)).symm, (congrArg Prod.snd (Except.ok.inj hfold)).symm⟩

theorem decisionInv_run {pool : DaemonPool} (hrun : Relation.ReflTransGen (DaemonStep C D readArtifact) .start pool) :
    DecisionInv D pool.state ∧ ∀ m ∈ pool.threads, Keeps C D m (fun _ _ => True) pool.state := by
  induction hrun with
  | refl => exact ⟨⟨rfl, governed_nil⟩, fun m hm => absurd hm List.not_mem_nil⟩
  | tail _ hstep ih =>
      cases hstep with
      | work h =>
          have hweak {m : Method Unit} {a : AuthorityState} : Keeps C D m (fun _ _ => True) a ↔
              m.Safe (execAuthority C D) Later Later (DecisionInv D) (fun _ _ => True) a :=
            ⟨fun h => Prog.Safe.weaken h fun _ _ _ _ => trivial,
              fun h => Prog.Safe.weaken h fun _ _ _ _ _ _ => trivial⟩
          obtain ⟨hinv, -, hsafe⟩ := h.safe later_trans later_refl (fun m hm a _ => hweak.mp (hm.keeps a)) ih.1
            fun m hm => hweak.mp (ih.2 m hm)
          exact ⟨hinv, fun m hm => hweak.mpr (hsafe m hm)⟩
      | reopen a hopen hevents =>
          obtain ⟨hops, hprojectors⟩ := operations_of_openAuthority hopen hevents ih.1.folded
          refine ⟨⟨?_, ?_⟩, fun m hm => absurd hm List.not_mem_nil⟩
          · rw [hevents, hops, hprojectors]
            exact ih.1.folded
          · rw [hevents, hops]
            exact ih.1.governed

/-- **The decision governs the dispatch.** In every state of every run an operation that is authorized, or past
that and not cancelled, has been allowed, an operation whose decision is a rejection or a cancellation has never
been authorized or dispatched, and none has been dispatched twice. -/
theorem decision_governs_operation (C : LineCodec EventEnvelope) (D : Digests)
    (readArtifact : AcceptedGenUiArtifact → Except String Unit) (pool : DaemonPool)
    (hrun : Relation.ReflTransGen (DaemonStep C D readArtifact) .start pool) (id : OperationId)
    (r : OperationRecord) (hget : pool.state.operations.get id = some r) :
    (r.state ∈ [.authorized, .dispatching, .succeeded, .failed, .violated, .unknownExecution] →
      r.permissionDecision = some .allowOnce ∨ r.permissionDecision = some .allowAlways) ∧
    (r.permissionDecision ∈ [some .rejectOnce, some .rejectAlways, some .cancelled] →
      entries id .authorized pool.state.journal.events = 0 ∧
        entries id .dispatching pool.state.journal.events = 0) ∧
    entries id .dispatching pool.state.journal.events ≤ 1 := by
  have h := (decisionInv_run hrun).1.governed.record id r hget
  refine ⟨fun hstate => ?_, fun hrefused => h.refused ?_, h.once⟩
  · obtain ⟨decision, hdecision, hallows⟩ := h.needsAllow (by
      simp only [List.mem_cons, List.not_mem_nil, or_false] at hstate
      rcases hstate with h | h | h | h | h | h <;> rw [h] <;> rfl)
    cases decision <;> simp_all [PermissionDecision.allows]
  · rintro ⟨decision, hdecision, hallows⟩
    rw [hdecision] at hrefused
    cases decision <;> simp_all [PermissionDecision.allows]

theorem DaemonStep.of_work {pool pool' : DaemonPool}
    (h : Relation.ReflTransGen (Pool.Step (execAuthority C D) Request) pool pool') :
    Relation.ReflTransGen (DaemonStep C D readArtifact) pool pool' :=
  Relation.ReflTransGen.mono (fun _ _ h => DaemonStep.work h) pool pool' h

/-- A run in which an operation is proposed, allowed and dispatched. -/
theorem decision_governs_operation_dispatched :
    ∃ (C : LineCodec EventEnvelope) (pool : DaemonPool) (r : OperationRecord),
      Relation.ReflTransGen (DaemonStep C sampleDigests fun _ => .ok ()) .start pool ∧
      pool.state.operations.get sampleOperation = some r ∧ r.state = .dispatching ∧
      (r.permissionDecision = some .allowOnce ∨ r.permissionDecision = some .allowAlways) ∧
      entries sampleOperation .dispatching pool.state.journal.events ≤ 1 := by
  have hdry : (dryRun sampleDigests
      [sampleCreate, samplePropose.discard, (sampleDecide .allowOnce).discard, sampleBegin.discard]
      ([0] ++ List.replicate 9 1 ++ List.replicate 6 2 ++ List.replicate 4 3)).map (fun pool =>
        ((pool.state.operations.get sampleOperation).map OperationRecord.state,
          pool.state.journal.events.length)) = some (some .dispatching, 8) := by
    decide +kernel
  obtain ⟨pool, hpool, hobserved⟩ := Option.map_eq_some_iff.mp hdry
  obtain ⟨hstate, hlength⟩ := Prod.mk.inj hobserved
  obtain ⟨r, hget, hr⟩ := Option.map_eq_some_iff.mp hstate
  have hthreads : ∀ m ∈ [sampleCreate, samplePropose.discard, (sampleDecide .allowOnce).discard,
      sampleBegin.discard], Request m := by
    simp only [List.forall_mem_cons, List.not_mem_nil, false_imp_iff, implies_true, and_true]
    exact ⟨request_sampleCreate, .propose .., .decide .., .begin ..⟩
  obtain ⟨a, hrun, hsame, -⟩ := reaches_of_dryRun hthreads hpool (by rw [hlength]; decide)
  have hrun' : Relation.ReflTransGen (DaemonStep _ sampleDigests fun _ => .ok ()) .start _ := DaemonStep.of_work hrun
  have hget' : a.operations.get sampleOperation = some r := hsame.operations ▸ hget
  have h := decision_governs_operation _ _ _ _ hrun' sampleOperation r hget'
  exact ⟨_, _, r, hrun', hget', hr, h.1 (by rw [hr]; decide), h.2.2⟩

end HyperTerm.Daemon
