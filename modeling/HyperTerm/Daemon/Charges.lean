import HyperTerm.Daemon.Decision
import HyperTerm.Lib.Threads
import Mathlib.Algebra.Group.Prod
import Mathlib.Algebra.Order.Group.Multiset

/-!
# Methods of the daemon among threads with tokens

The gateways keep a state of their own beside the authority, and their threads call the daemon's methods. A charge of
an operation is the token of the thread that moves it: the one that proposes the operation, or later the one whose
record of the decision was accepted. There is only one.

* `Charging` : what an invariant must say about records of the authority;
* one lemma a method: what a thread holds after it, and what it knows.
-/

namespace HyperTerm.Daemon
open HyperTerm.Protocol HyperTerm.Core HyperTerm.Lib

/-! ## The authority beside another state -/

inductive SharedOp (Op : Type) where
  | authority (op : AuthorityOp)
  | own (op : Op)

abbrev SharedAns {Op : Type} (Ans : Op → Type) : SharedOp Op → Type
  | .authority op => AuthorityAns op
  | .own op => Ans op

structure Shared (σ : Type) where
  authority : AuthorityState
  own : σ

variable {Op : Type} {Ans : Op → Type} {σ N ε α β : Type} [AddCommMonoid N]

/-- An operation of a method, with the other state beside it. -/
def execBeside (C : LineCodec EventEnvelope) (D : Digests) (op : AuthorityOp) (s : Shared σ) :
    Shared σ × AuthorityAns op :=
  ({ s with authority := (execAuthority C D op s.authority).1 }, (execAuthority C D op s.authority).2)

def execShared (C : LineCodec EventEnvelope) (D : Digests) (exec : (op : Op) → σ → σ × Ans op) :
    (op : SharedOp Op) → Shared σ → Shared σ × SharedAns Ans op
  | .authority op, s => execBeside C D op s
  | .own op, s => ({ s with own := (exec op s.own).1 }, (exec op s.own).2)

/-- A method of the daemon, called by a thread of a gateway. -/
def daemonCall (m : Method α) : Prog (SharedOp Op) (SharedAns Ans) ε (Except DaemonError α) :=
  m.embed SharedOp.authority fun _ => id

/-! ## Charges -/

/-- The thread that holds it is the one to move the operation, which is in this state at this revision. -/
structure Charge where
  operationId : OperationId
  revision : Nat
  state : OperationState
  deriving DecidableEq

abbrev Tokens (N : Type) := Multiset Charge × N

def charge (operationId : OperationId) (revision : Nat) (state : OperationState) : Tokens N :=
  ({⟨operationId, revision, state⟩}, 0)

/-- What a charge says of its operation. Nobody else can decide it. -/
structure Charge.Of (c : Charge) (r : OperationRecord) : Prop where
  revision : r.revision = c.revision
  state : r.state = c.state
  decided : r.permissionDecision = none ↔ r.state = .proposed ∨ r.state = .policyCheck

/-- There is one charge an operation, of an operation of a kind that others leave alone. -/
structure ChargesOk (ours : OperationAction → Prop) (charges : Multiset Charge) (operations : OperationReducer) :
    Prop where
  nodup : (charges.map Charge.operationId).Nodup
  exact : ∀ c ∈ charges, ∃ r, operations.get c.operationId = some r ∧ c.Of r ∧ ours r.action

/-- The charges together with the gateway's own invariant. -/
def WithCharges (ours : OperationAction → Prop) (inv : Tokens N → Shared σ → Prop) (m : Tokens N) (s : Shared σ) :
    Prop :=
  ChargesOk ours m.1 s.authority.operations ∧ inv m s

/-- The invariant of a gateway whose operations are moved by the thread that is charged with them. `fresh` is what the
proposer of an operation holds once it waits for the human. -/
structure Charging (ours : OperationAction → Prop) (inv : Tokens N → Shared σ → Prop) (fresh : OperationId → N) :
    Prop where
  fresh_exact : ∀ m s id, WithCharges ours inv (m + (0, fresh id)) s →
    ∃ r, s.authority.operations.get id = some r ∧ r.revision = 3 ∧ r.state = .waitingHuman
  journal : ∀ m s a, inv m s → a.operations = s.authority.operations → inv m { s with authority := a }
  proposed : ∀ m s a r, WithCharges ours inv m s → s.authority.operations.get r.operationId = none →
    r.state = .proposed → r.permissionDecision = none → a.operations = s.authority.operations.put r →
    inv (m + charge r.operationId 1 .proposed) { s with authority := a }
  checked : ∀ m s a r, WithCharges ours inv (m + charge r.operationId 1 .proposed) s →
    s.authority.operations.get r.operationId = some r →
    a.operations = s.authority.operations.put { r with revision := r.revision + 1, state := .policyCheck } →
    inv (m + charge r.operationId 2 .policyCheck) { s with authority := a }
  waiting : ∀ m s a r, WithCharges ours inv (m + charge r.operationId 2 .policyCheck) s →
    s.authority.operations.get r.operationId = some r → r.state = .policyCheck → ours r.action →
    r.permissionDecision = none →
    a.operations = s.authority.operations.put { r with revision := r.revision + 1, state := .waitingHuman } →
    inv (m + (0, fresh r.operationId)) { s with authority := a }
  moved : ∀ m s a r toState, WithCharges ours inv (m + charge r.operationId r.revision r.state) s →
    s.authority.operations.get r.operationId = some r → r.permissionDecision ≠ none →
    validTransition r.state toState = true →
    a.operations = s.authority.operations.put { r with revision := r.revision + 1, state := toState } →
    inv (m + charge r.operationId (r.revision + 1) toState) { s with authority := a }

variable {operations : OperationReducer} {charges : Multiset Charge} {ours : OperationAction → Prop}

theorem chargesOk_zero : ChargesOk ours 0 operations :=
  ⟨Multiset.nodup_zero, fun c hc => absurd hc (Multiset.notMem_zero c)⟩

/-- The record of another operation changes, or a record is new. -/
theorem ChargesOk.put {r : OperationRecord} (h : ChargesOk ours charges operations)
    (hother : ∀ c ∈ charges, c.operationId ≠ r.operationId) : ChargesOk ours charges (operations.put r) := by
  refine ⟨h.nodup, fun c hc => ?_⟩
  obtain ⟨r', hget, hr'⟩ := h.exact c hc
  exact ⟨r', by rw [OperationReducer.get_put, if_neg (hother c hc), hget], hr'⟩

theorem ChargesOk.add {c : Charge} (h : ChargesOk ours charges operations)
    (hother : ∀ c' ∈ charges, c'.operationId ≠ c.operationId)
    (hc : ∃ r, operations.get c.operationId = some r ∧ c.Of r ∧ ours r.action) :
    ChargesOk ours (charges + {c}) operations := by
  refine ⟨?_, fun c' hc' => ?_⟩
  · rw [Multiset.map_add, Multiset.map_singleton, Multiset.nodup_add]
    refine ⟨h.nodup, Multiset.nodup_singleton _, ?_⟩
    rw [Multiset.disjoint_singleton]
    intro hmem
    obtain ⟨c', hc', heq⟩ := Multiset.mem_map.mp hmem
    exact hother c' hc' heq
  · rcases Multiset.mem_add.mp hc' with hc' | hc'
    · exact h.exact c' hc'
    · rw [Multiset.mem_singleton.mp hc']
      exact hc

theorem ChargesOk.of_add {c : Charge} (h : ChargesOk ours (charges + {c}) operations) :
    ChargesOk ours charges operations ∧ (∀ c' ∈ charges, c'.operationId ≠ c.operationId) ∧
      ∃ r, operations.get c.operationId = some r ∧ c.Of r ∧ ours r.action := by
  obtain ⟨hnodup, hexact⟩ := h
  rw [Multiset.map_add, Multiset.map_singleton, Multiset.nodup_add, Multiset.disjoint_singleton] at hnodup
  refine ⟨⟨hnodup.1, fun c' hc' => hexact c' (Multiset.mem_add.mpr (Or.inl hc'))⟩, fun c' hc' heq => ?_,
    hexact c (Multiset.mem_add.mpr (Or.inr (Multiset.mem_singleton_self c)))⟩
  exact hnodup.2.2 (Multiset.mem_map.mpr ⟨c', hc', heq⟩)

theorem ChargesOk.mono {charges' : Multiset Charge} (h : ChargesOk ours charges operations) (hle : charges' ≤ charges) :
    ChargesOk ours charges' operations :=
  ⟨Multiset.nodup_of_le (Multiset.map_le_map hle) h.nodup, fun c hc => h.exact c (Multiset.mem_of_le hle hc)⟩

/-- The charged operation moves. -/
theorem ChargesOk.move {r : OperationRecord} {revision : Nat} {state : OperationState}
    (h : ChargesOk ours (charges + {⟨r.operationId, revision, state⟩}) operations) {r' : OperationRecord}
    {c : Charge} (hof : c.Of r') (hid : r'.operationId = r.operationId) (hc : c.operationId = r.operationId)
    (hours : ours r'.action) : ChargesOk ours (charges + {c}) (operations.put r') := by
  obtain ⟨hcharges, hother, -⟩ := h.of_add
  refine (hcharges.put fun c' hc' => hid ▸ hother c' hc').add (fun c' hc' => hc ▸ hother c' hc') ⟨r', ?_, hof, hours⟩
  rw [hc, ← hid]
  exact operations.get_put_self r'

/-! ## Records -/

section Methods

open Method

variable {C : LineCodec EventEnvelope} {D : Digests} {allowed : SharedOp Op → Shared σ → Prop}
  {inv : Tokens N → Shared σ → Prop} {fresh : OperationId → N} {own : Tokens N} {taskId : TaskId} {id : OperationId}

/-- What a method of the daemon ends in, and what the thread that called it then holds. -/
abbrev Charged (C : LineCodec EventEnvelope) (D : Digests) (allowed : SharedOp Op → Shared σ → Prop)
    (ours : OperationAction → Prop) (inv : Tokens N → Shared σ → Prop) (m : Method α)
    (P : Except DaemonError α → Tokens N → Prop) (own : Tokens N) : Prop :=
  m.Holds (execBeside C D) (fun op => allowed (.authority op)) (WithCharges ours inv) P own

theorem charged_lift_bind {r : Except DaemonError α} {f : α → Method β} {P : Except DaemonError β → Tokens N → Prop}
    (herr : ∀ e, P (.error e) own) (hok : ∀ x, r = .ok x → Charged C D allowed ours inv (f x) P own) :
    Charged C D allowed ours inv (lift r >>= f) P own := by
  cases r with
  | ok x => exact hok x rfl
  | error e => exact herr e

theorem charged_ensure_bind {p : Prop} [Decidable p] {e : DaemonError} {f : Unit → Method β}
    {P : Except DaemonError β → Tokens N → Prop} (herr : ∀ e, P (.error e) own)
    (hok : p → Charged C D allowed ours inv (f ()) P own) :
    Charged C D allowed ours inv (ensure p e >>= f) P own := by
  refine charged_lift_bind herr fun x hx => hok ?_
  split_ifs at hx with hp
  exact hp

theorem charged_operation {P : Except DaemonError OperationRecord → Tokens N → Prop}
    (h : ∀ r, (∀ x, r = .ok x → x.operationId = id) → P r own) :
    Charged C D allowed ours inv (operation id) P own := by
  intro s rest hi _
  refine ⟨own, hi, h _ fun r hr => OperationReducer.operationId_eq_of_get (okOr_eq_ok.mp hr)⟩

theorem charged_requireTask {P : Except DaemonError Unit → Tokens N → Prop} (h : ∀ r, P r own) :
    Charged C D allowed ours inv (requireTask taskId) P own :=
  fun _ _ hi _ => ⟨own, hi, h _⟩

/-- Who is charged with an operation knows what it reads. -/
theorem charged_operation_of_charge {revision : Nat} {state : OperationState}
    {P : Except DaemonError OperationRecord → Tokens N → Prop}
    (h : ∀ r, r.operationId = id → r.revision = revision → r.state = state →
      P (.ok r) (own + charge id revision state)) :
    Charged C D allowed ours inv (operation id) P (own + charge id revision state) := by
  intro s rest hi _
  obtain ⟨r, hget, hof, -⟩ := hi.1.exact ⟨id, revision, state⟩
    (Multiset.mem_add.mpr (Or.inr (Multiset.mem_add.mpr (Or.inr (Multiset.mem_singleton_self _)))))
  refine ⟨_, hi, ?_⟩
  change P (okOr (s.authority.operations.get id) _) _
  rw [hget]
  exact h r (OperationReducer.operationId_eq_of_get hget) hof.revision hof.state

/-- A record is refused without a trace, or it changes the operations as the reducer has it. -/
theorem charged_record (hcharging : Charging ours inv fresh) {env : RecordEnv} {event : NewEvent}
    {P : Except DaemonError Unit → Tokens N → Prop} (herr : ∀ e, P (.error e) own)
    (hok : ∀ s rest envelope a, WithCharges ours inv (rest + own) s → allowed (.authority (.record env event)) s →
      envelope.payload = event.payload → envelope.operationId = event.operationId →
      s.authority.operations.Change envelope a.operations →
      ∃ own', WithCharges ours inv (rest + own') { s with authority := a } ∧ P (.ok ()) own') :
    Charged C D allowed ours inv (record env event) P own := by
  intro s rest hi hallowed
  have hout := s.authority.record_outcome (C := C) (D := D) env event
  change ∃ own', WithCharges ours inv (rest + own') { s with authority := (s.authority.record C D env event).1 } ∧
    P ((s.authority.record C D env event).2.map fun _ => ()) own'
  generalize (s.authority.record C D env event).1 = a, (s.authority.record C D env event).2 = result at hout ⊢
  cases hout with
  | refused e => exact ⟨own, ⟨hi.1, hcharging.journal _ _ _ hi.2 rfl⟩, herr e⟩
  | ioFailed file hio => exact ⟨own, ⟨hi.1, hcharging.journal _ _ _ hi.2 rfl⟩, herr _⟩
  | recorded envelope operations projector patch henv htask hops hproj hio hlen =>
      exact hok s rest envelope _ hi hallowed henv.payload henv.operationId (OperationReducer.apply_cases hops)

/-- An event that does not move an operation. -/
theorem charged_event (hcharging : Charging ours inv fresh) {env : RecordEnv} {event : NewEvent}
    {P : Except DaemonError Unit → Tokens N → Prop}
    (hproposed : ∀ rev k a s ri c, event.payload ≠ .operationProposed rev k a s ri c)
    (hmoved : ∀ rev f t a re, event.payload ≠ .operationStateChanged rev f t a re)
    (hdecided : ∀ rev d a, event.payload ≠ .permissionDecided rev d a) (h : ∀ r, P r own) :
    Charged C D allowed ours inv (record env event) P own := by
  refine charged_record hcharging (fun e => h _) fun s rest envelope a hi _ hpayload _ hchange => ⟨own, ?_, h _⟩
  have hsame : a.operations = s.authority.operations := by
    generalize a.operations = operations at hchange
    cases hchange with
    | proposed _ _ _ _ _ _ hp => exact absurd (hpayload.symm.trans hp) (hproposed _ _ _ _ _ _)
    | moved _ _ _ _ hp => exact absurd (hpayload.symm.trans hp) (hmoved _ _ _ _ _)
    | decided _ _ _ hp => exact absurd (hpayload.symm.trans hp) (hdecided _ _ _)
    | requested => rfl
    | other => rfl
  exact ⟨hsame ▸ hi.1, hcharging.journal _ _ _ hi.2 hsame⟩

/-! ## Transitions -/

theorem accepted_stateChanged {operations operations' : OperationReducer} {envelope : EventEnvelope}
    {revision : Nat} {fromState toState : OperationState} {actor : Actor} {reason : Option String}
    (hpayload : envelope.payload = .operationStateChanged revision fromState toState actor reason)
    (hid : envelope.operationId = some id) (h : operations.Change envelope operations') :
    ∃ r, r.operationId = id ∧ operations.get id = some r ∧ revision = r.revision + 1 ∧ fromState = r.state ∧
      validTransition r.state toState = true ∧
      operations' = operations.put { r with revision := r.revision + 1, state := toState } := by
  cases h with
  | proposed _ _ _ _ _ _ hp => cases hp.symm.trans hpayload
  | requested _ _ _ _ hp => cases hp.symm.trans hpayload
  | decided _ _ _ hp => cases hp.symm.trans hpayload
  | other _ hmoved => exact absurd hpayload (hmoved _ _ _ _ _)
  | moved record toState' actor' reason' hp hid' hget hvalid =>
      obtain ⟨rfl, rfl, rfl, -, -⟩ := DomainEvent.operationStateChanged.inj (hpayload.symm.trans hp)
      obtain rfl := Option.some.inj (hid.symm.trans hid')
      exact ⟨record, rfl, hget, rfl, rfl, hvalid, rfl⟩

theorem accepted_decided {operations operations' : OperationReducer} {envelope : EventEnvelope} {revision : Nat}
    {decision : PermissionDecision} {actor : Actor}
    (hpayload : envelope.payload = .permissionDecided revision decision actor)
    (hid : envelope.operationId = some id) (h : operations.Change envelope operations') :
    ∃ r, r.operationId = id ∧ operations.get id = some r ∧ revision = r.revision ∧ r.state = .waitingHuman ∧
      r.permissionDecision = none ∧ operations' = operations.put { r with permissionDecision := some decision } := by
  cases h with
  | proposed _ _ _ _ _ _ hp => cases hp.symm.trans hpayload
  | requested _ _ _ _ hp => cases hp.symm.trans hpayload
  | moved _ _ _ _ hp => cases hp.symm.trans hpayload
  | other _ _ _ hdecided => exact absurd hpayload (hdecided _ _ _)
  | decided record decision' actor' hp hid' hget hstate hnone =>
      obtain ⟨rfl, rfl, -⟩ := DomainEvent.permissionDecided.inj (hpayload.symm.trans hp)
      obtain rfl := Option.some.inj (hid.symm.trans hid')
      exact ⟨record, rfl, hget, rfl, hstate, hnone, rfl⟩

theorem mem_charges {rest own : Tokens N} {revision : Nat} {state : OperationState} :
    (⟨id, revision, state⟩ : Charge) ∈ (rest + (own + charge id revision state)).1 :=
  Multiset.mem_add.mpr (Or.inr (Multiset.mem_add.mpr (Or.inr (Multiset.mem_singleton_self _))))

/-- A transition by the thread that is charged with the operation; `m` is what it holds if it succeeds. -/
theorem charged_transition (hcharging : Charging ours inv fresh) {env : RecordEnv}
    {expectedRevision revision : Nat} {state toState : OperationState} {actor : Actor} {reason : Option String}
    {m : Tokens N} {P : Except DaemonError OperationRecord → Tokens N → Prop}
    (herr : ∀ e, P (.error e) (own + charge id revision state))
    (hmove : ∀ s rest a r, WithCharges ours inv (rest + (own + charge id revision state)) s → r.operationId = id →
      s.authority.operations.get id = some r → r.revision = revision → r.state = state → ours r.action →
      validTransition state toState = true →
      a.operations = s.authority.operations.put { r with revision := r.revision + 1, state := toState } →
      WithCharges ours inv (rest + m) { s with authority := a })
    (hread : expectedRevision = revision → Charged C D allowed ours inv (operation id) P m) :
    Charged C D allowed ours inv (transition env taskId id expectedRevision toState actor reason) P
      (own + charge id revision state) := by
  refine Prog.Holds.bind (charged_operation_of_charge (P := fun r own' => own' = own + charge id revision state ∧
      ∀ x, r = .ok x → x.operationId = id ∧ x.revision = revision ∧ x.state = state) ?_) ?_ ?_
  · rintro r hid hrevision hstate
    exact ⟨rfl, fun x hx => Except.ok.inj hx ▸ ⟨hid, hrevision, hstate⟩⟩
  · rintro current own' ⟨rfl, hcurrent⟩
    obtain ⟨hid, hrevision, hstate⟩ := hcurrent current rfl
    refine charged_lift_bind herr fun _ hscope => ?_
    have hexpected : expectedRevision = revision := hrevision ▸ (validateOperationScope_eq_ok hscope).2.symm
    refine Prog.Holds.bind (charged_record hcharging (P := fun r own' =>
      own' = (match r with | .ok _ => m | .error _ => own + charge id revision state)) (fun e => rfl) ?_) ?_ ?_
    · intro s rest envelope a hi _ hpayload hoperation hchange
      obtain ⟨r, hr, hget, -, hfrom, hvalid, hput⟩ := accepted_stateChanged hpayload hoperation hchange
      obtain ⟨r', hget', hof, hours⟩ := hi.1.exact _ mem_charges
      obtain rfl : r' = r := Option.some.inj (hget'.symm.trans hget)
      have hrstate : r'.state = state := hof.state
      exact ⟨m, hmove s rest a r' hi hr hget hof.revision hrstate hours (hrstate ▸ hvalid) hput, rfl⟩
    · rintro _ own' rfl
      exact hread hexpected
    · rintro e own' rfl
      exact herr e
  · rintro e own' ⟨rfl, -⟩
    exact herr e

theorem past_check {fromState toState : OperationState} (h : validTransition fromState toState = true)
    (hfrom : fromState ≠ .proposed) : toState ≠ .proposed ∧ toState ≠ .policyCheck := by
  cases fromState <;> cases toState <;> simp_all [validTransition]

/-- Who is charged with an operation that is decided moves it on. -/
theorem charged_move (hcharging : Charging ours inv fresh)  {env : RecordEnv} {expectedRevision revision : Nat} {state toState : OperationState} {actor : Actor}
    {reason : Option String} {P : Except DaemonError OperationRecord → Tokens N → Prop}
    (hstate : state ≠ .proposed ∧ state ≠ .policyCheck)
    (herr : ∀ e, P (.error e) (own + charge id revision state))
    (hok : ∀ r, expectedRevision = revision → r.operationId = id → r.revision = revision + 1 → r.state = toState →
      P (.ok r) (own + charge id (revision + 1) toState)) :
    Charged C D allowed ours inv (transition env taskId id expectedRevision toState actor reason) P
      (own + charge id revision state) := by
  refine charged_transition hcharging herr (m := own + charge id (revision + 1) toState) ?_
    fun hexpected => charged_operation_of_charge fun r hid hrevision hstate => hok r hexpected hid hrevision hstate
  rintro s rest a r hi rfl hget rfl rfl hours hvalid hput
  obtain ⟨r', hget', hof, -⟩ := hi.1.exact _ mem_charges
  obtain rfl : r' = r := Option.some.inj (hget'.symm.trans hget)
  have hdecided : r'.permissionDecision ≠ none := fun hnone => (hof.decided.mp hnone).elim hstate.1 hstate.2
  rw [← add_assoc] at hi ⊢
  refine ⟨?_, hcharging.moved _ _ _ r' toState hi hget hdecided hvalid hput⟩
  change ChargesOk ours ((rest + own).1 + {⟨r'.operationId, r'.revision + 1, toState⟩}) a.operations
  have hcharges : ChargesOk ours ((rest + own).1 + {⟨r'.operationId, r'.revision, r'.state⟩})
      s.authority.operations := hi.1
  have hof' : Charge.Of ⟨r'.operationId, r'.revision + 1, toState⟩
      { r' with revision := r'.revision + 1, state := toState } := by
    obtain ⟨hproposed, hcheck⟩ := past_check hvalid hstate.1
    exact ⟨rfl, rfl, iff_of_false hdecided fun h => h.elim hproposed hcheck⟩
  rw [hput]
  exact hcharges.move hof' rfl rfl hours

/-! ## One lemma a method -/

theorem charged_beginOperation (hcharging : Charging ours inv fresh)  {env : RecordEnv} {expectedRevision revision : Nat} {P : Except DaemonError OperationRecord → Tokens N → Prop}
    (herr : ∀ e, P (.error e) (own + charge id revision .authorized))
    (hok : ∀ r, expectedRevision = revision → r.operationId = id → r.revision = revision + 1 → r.state = .dispatching →
      P (.ok r) (own + charge id (revision + 1) .dispatching)) :
    Charged C D allowed ours inv (beginOperation env taskId id expectedRevision) P
      (own + charge id revision .authorized) := by
  refine Prog.Holds.bind (Q := fun r own' => own' = own + charge id revision .authorized)
    (charged_operation fun _ _ => rfl) ?_ ?_
  · rintro current _ rfl
    refine charged_lift_bind herr fun _ _ => charged_ensure_bind herr fun _ => charged_ensure_bind herr fun _ => ?_
    exact charged_move hcharging (by simp) herr hok
  · rintro e _ rfl
    exact herr e

theorem charged_completeOperation (hcharging : Charging ours inv fresh)  {env : Nat → RecordEnv} {expectedRevision revision : Nat} {completion : OperationCompletion}
    {P : Except DaemonError OperationRecord → Tokens N → Prop}
    (herr : ∀ e, P (.error e) (own + charge id revision .dispatching))
    (hok : ∀ r outcome, completionOutcome completion = .ok outcome → r.operationId = id →
      r.state = targetState outcome → P (.ok r) (own + charge id (revision + 1) (targetState outcome))) :
    Charged C D allowed ours inv (completeOperation env taskId id expectedRevision completion) P
      (own + charge id revision .dispatching) := by
  refine Prog.Holds.bind (Q := fun r own' => own' = own + charge id revision .dispatching)
    (charged_operation fun _ _ => rfl) ?_ ?_
  · rintro current _ rfl
    refine charged_lift_bind herr fun _ _ => charged_ensure_bind herr fun _ => charged_lift_bind herr fun outcome ho => ?_
    refine charged_ensure_bind herr fun _ => charged_lift_bind herr fun _ _ => charged_lift_bind herr fun _ _ => ?_
    refine charged_ensure_bind herr fun _ => ?_
    refine Prog.Holds.bind (Q := fun r own' => own' = own + charge id revision .dispatching)
      (charged_event hcharging (by simp [operationEvent]) (by simp [operationEvent]) (by simp [operationEvent])
        fun _ => rfl) ?_ ?_
    · rintro _ _ rfl
      exact charged_move hcharging (by simp) herr fun r _ hid _ hstate => hok r outcome ho hid hstate
    · rintro e _ rfl
      exact herr e
  · rintro e _ rfl
    exact herr e

/-- The state an operation goes to with a decision. -/
def decidedState (decision : PermissionDecision) : OperationState :=
  if PermissionDecision.allows decision then .authorized else .cancelled

theorem charged_activateAuthorizedSandbox (hcharging : Charging ours inv fresh)
    {env : Nat → RecordEnv} {revision : Nat} {prepared : PreparedSandbox} {activated : Except DaemonError Unit}
    {P : Except DaemonError Unit → Tokens N → Prop} (h : ∀ r, P r own) :
    Charged C D allowed ours inv (activateAuthorizedSandbox env taskId id revision prepared activated) P own := by
  have hevent {env : RecordEnv} {payload : DomainEvent} {f : Unit → Method Unit}
      (hproposed : ∀ rev k a s ri c, payload ≠ .operationProposed rev k a s ri c)
      (hmoved : ∀ rev f t a re, payload ≠ .operationStateChanged rev f t a re)
      (hdecided : ∀ rev d a, payload ≠ .permissionDecided rev d a)
      (hf : Charged C D allowed ours inv (f ()) P own) :
      Charged C D allowed ours inv (record env (operationEvent taskId id payload) >>= f) P own := by
    refine Prog.Holds.bind (Q := fun r own' => own = own')
      (charged_event hcharging hproposed hmoved hdecided fun _ => rfl) ?_ ?_
    · rintro _ _ rfl
      exact hf
    · rintro e _ rfl
      exact h _
  refine hevent (by simp) (by simp) (by simp) (hevent (by simp) (by simp) (by simp) ?_)
  exact hevent (by simp) (by simp) (by simp) (h _)

/-- The decision brings the charge, and turns `own` into `m`, unless somebody else has decided. It stays with who has it
even if what comes after the decision fails. -/
theorem charged_decidePermission (hcharging : Charging ours inv fresh) {env : Nat → RecordEnv}
    {expectedRevision : Nat} {decision : PermissionDecision}
    {prepare : OperationRecord → Except DaemonError PreparedSandbox} {activated : Except DaemonError Unit}
    {m : Tokens N} {P : Except DaemonError OperationRecord → Tokens N → Prop} (hsame : m.1 = own.1)
    (hdecide : ∀ rest s a r, WithCharges ours inv (rest + own) s → r.operationId = id →
      s.authority.operations.get id = some r → r.revision = expectedRevision → r.state = .waitingHuman →
      r.permissionDecision = none →
      allowed (.authority (.record (env 0) (operationEvent taskId id
        (.permissionDecided expectedRevision decision .user)))) s →
      a.operations = s.authority.operations.put { r with permissionDecision := some decision } →
      ours r.action ∧ inv (rest + m + charge id expectedRevision .waitingHuman) { s with authority := a })
    (herr : ∀ e, P (.error e) own)
    (hdecided : ∀ e, P (.error e) (m + charge id expectedRevision .waitingHuman))
    (hmoved : ∀ e r prepared, prepare r = .ok prepared →
      P (.error e) (m + charge id (expectedRevision + 1) (decidedState decision)))
    (hok : ∀ r, r.operationId = id → r.revision = expectedRevision + 1 → r.state = decidedState decision →
      P (.ok r) (m + charge id (expectedRevision + 1) (decidedState decision))) :
    Charged C D allowed ours inv (decidePermission env taskId id expectedRevision decision prepare activated) P
      own := by
  refine Prog.Holds.bind (Q := fun r own' => own = own') (charged_operation fun _ _ => rfl) ?_ ?_
  · rintro current _ rfl
    refine charged_lift_bind herr fun _ _ => charged_ensure_bind herr fun _ => charged_lift_bind herr fun prepared hprepared => ?_
    refine Prog.Holds.bind (Q := fun r own' => own' = (match r with
      | .ok _ => m + charge id expectedRevision .waitingHuman
      | .error _ => own)) (charged_record hcharging (fun _ => rfl) ?_) ?_ ?_
    · intro s rest envelope a hi hallowed hpayload hoperation hchange
      obtain ⟨r, rfl, hget, rfl, hstate, hnone, hput⟩ := accepted_decided hpayload hoperation hchange
      obtain ⟨hours, hinv⟩ := hdecide rest s a r hi rfl hget rfl hstate hnone hallowed hput
      refine ⟨_, ⟨?_, by rw [← add_assoc]; exact hinv⟩, rfl⟩
      have hsame' : (rest + m).1 = (rest + own).1 := congrArg (rest.1 + ·) hsame
      have hother : ∀ c ∈ (rest + m).1, c.operationId ≠ r.operationId := by
        intro c hc heq
        obtain ⟨r', hget', hof, -⟩ := hi.1.exact c (hsame' ▸ hc)
        obtain rfl : r' = r := Option.some.inj (hget'.symm.trans (heq ▸ hget))
        rcases hof.decided.mp hnone with h | h <;> cases hstate.symm.trans h
      have hcharges := ((hsame' ▸ hi.1 : ChargesOk ours (rest + m).1 _).put
        (r := { r with permissionDecision := some decision }) hother).add
        (c := ⟨r.operationId, r.revision, .waitingHuman⟩) hother
        ⟨_, OperationReducer.get_put_self _ _, ⟨rfl, hstate, by simp [hstate]⟩, hours⟩
      rw [← add_assoc]
      exact hput ▸ hcharges
    · rintro _ _ rfl
      refine Prog.Holds.bind (Q := fun r own' => (∀ e, r = .error e →
          own' = m + charge id expectedRevision .waitingHuman) ∧ ∀ x, r = .ok x →
          own' = m + charge id (expectedRevision + 1) (decidedState decision))
        (charged_move hcharging (by simp) (fun e => ⟨fun _ _ => rfl, fun x hx => (nomatch hx)⟩)
          fun r _ _ _ _ => ⟨fun e he => (nomatch he), fun _ _ => rfl⟩) ?_ ?_
      · intro updated own' hown
        obtain rfl := hown.2 updated rfl
        have hread : Charged C D allowed ours inv (operation id) P
            (m + charge id (expectedRevision + 1) (decidedState decision)) :=
          charged_operation_of_charge fun r hid hrevision hstate => hok r hid hrevision hstate
        cases prepared with
        | none => exact hread
        | some prepared =>
            refine Prog.Holds.bind (Q := fun r own' =>
              own' = m + charge id (expectedRevision + 1) (decidedState decision))
              (charged_activateAuthorizedSandbox hcharging fun _ => rfl) ?_ ?_
            · rintro _ _ rfl
              exact hread
            · rintro e _ rfl
              cases hprepare : prepare current with
              | ok prepared' => exact hmoved e current prepared' hprepare
              | error e =>
                  rw [hprepare] at hprepared
                  split_ifs at hprepared <;> cases hprepared
      · intro e own' hown
        obtain rfl := hown.1 e rfl
        exact hdecided e
    · rintro e _ rfl
      exact herr e
  · rintro e _ rfl
    exact herr e

/-- Who has proposed an operation knows what it reads as long as it waits for the human. -/
theorem charged_operation_of_fresh (hcharging : Charging ours inv fresh)
    {P : Except DaemonError OperationRecord → Tokens N → Prop}
    (h : ∀ r, r.operationId = id → r.revision = 3 → r.state = .waitingHuman → P (.ok r) (own + (0, fresh id))) :
    Charged C D allowed ours inv (operation id) P (own + (0, fresh id)) := by
  intro s rest hi _
  obtain ⟨r, hget, hrevision, hstate⟩ := hcharging.fresh_exact (rest + own) s id (add_assoc rest own _ ▸ hi)
  refine ⟨_, hi, ?_⟩
  change P (okOr (s.authority.operations.get id) _) _
  rw [hget]
  exact h r (OperationReducer.operationId_eq_of_get hget) hrevision hstate

theorem accepted_proposed {operations operations' : OperationReducer} {envelope : EventEnvelope} {revision : Nat}
    {kind : OperationKind} {action : OperationAction} {summary : String} {risk : RiskClass}
    {capabilities : List String}
    (hpayload : envelope.payload = .operationProposed revision kind action summary risk capabilities)
    (hid : envelope.operationId = some id) (h : operations.Change envelope operations') :
    ∃ r, r.operationId = id ∧ operations.get id = none ∧ r.revision = 1 ∧ r.state = .proposed ∧
      r.permissionDecision = none ∧ r.action = action ∧ operations' = operations.put r := by
  cases h with
  | moved _ _ _ _ hp => cases hp.symm.trans hpayload
  | requested _ _ _ _ hp => cases hp.symm.trans hpayload
  | decided _ _ _ hp => cases hp.symm.trans hpayload
  | other hproposed => exact absurd hpayload (hproposed _ _ _ _ _ _)
  | proposed r kind' action' summary' risk' capabilities' hp hrecord hid' hfresh =>
      obtain ⟨-, -, rfl, -, -, -⟩ := DomainEvent.operationProposed.inj (hpayload.symm.trans hp)
      obtain rfl := Option.some.inj (hid.symm.trans hid')
      refine ⟨r, rfl, hfresh, ?_, ?_, ?_, ?_, rfl⟩ <;> rw [hrecord]

/-- The proposer of an operation is charged with it until it waits for the human. -/
theorem charged_proposeOperation (hcharging : Charging ours inv fresh) {checks : ProposalChecks}
    {env : Nat → RecordEnv} {kind : OperationKind} {action : OperationAction} {summary : String} {risk : RiskClass}
    {capabilities : List String} (hours : ours action)
    {P : Except DaemonError OperationRecord → Tokens N → Prop} (herr : ∀ e more, P (.error e) (own + more))
    (hok : ∀ r, r.operationId = id → r.revision = 3 → r.state = .waitingHuman → P (.ok r) (own + (0, fresh id))) :
    Charged C D allowed ours inv (proposeOperation checks env id taskId kind action summary risk capabilities) P
      own := by
  have herr' (e : DaemonError) : P (.error e) own := add_zero own ▸ herr e 0
  refine Prog.Holds.bind (Q := fun r own' => own = own') (charged_requireTask fun _ => rfl) ?_ ?_
  · rintro _ _ rfl
    refine charged_lift_bind herr' fun _ _ => ?_
    refine Prog.Holds.bind (Q := fun r own' => own' = (match r with
      | .ok _ => own + charge id 1 .proposed
      | .error _ => own)) (charged_record hcharging (fun _ => rfl) ?_) ?_ ?_
    · intro s rest envelope a hi _ hpayload hoperation hchange
      obtain ⟨r, rfl, hnone, hrevision, hstate, hundecided, haction, hput⟩ :=
        accepted_proposed hpayload hoperation hchange
      have hinv := hcharging.proposed _ _ a r hi hnone hstate hundecided hput
      refine ⟨_, ⟨?_, by rw [← add_assoc]; exact hinv⟩, rfl⟩
      have hother : ∀ c ∈ (rest + own).1, c.operationId ≠ r.operationId := by
        intro c hc heq
        obtain ⟨r', hget', -⟩ := hi.1.exact c hc
        cases hnone.symm.trans (heq ▸ hget')
      have hcharges := (hi.1.put hother).add (c := ⟨r.operationId, 1, .proposed⟩) hother
        ⟨r, OperationReducer.get_put_self _ _, ⟨hrevision, hstate, iff_of_true hundecided (Or.inl hstate)⟩, haction ▸ hours⟩
      rw [← add_assoc]
      exact hput ▸ hcharges
    · rintro _ _ rfl
      refine Prog.Holds.bind (Q := fun r own' => ∃ more, own' = own + more ∧
          ∀ x, r = .ok x → own' = own + charge id 2 .policyCheck) ?_ ?_ ?_
      · refine charged_transition hcharging (m := own + charge id 2 .policyCheck)
          (fun e => ⟨_, rfl, fun x hx => (nomatch hx)⟩) ?_
          fun _ => charged_operation fun r _ => ⟨_, rfl, fun _ _ => rfl⟩
        rintro s rest a r hi rfl hget hrevision hstate hours' hvalid hput
        obtain ⟨r', hget', hof, -⟩ := hi.1.exact _ mem_charges
        obtain rfl : r' = r := Option.some.inj (hget'.symm.trans hget)
        rw [← add_assoc] at hi ⊢
        refine ⟨?_, hcharging.checked _ _ _ r' hi hget hput⟩
        have hcharges : ChargesOk ours ((rest + own).1 + {⟨r'.operationId, 1, .proposed⟩})
            s.authority.operations := hi.1
        have hof' : Charge.Of ⟨r'.operationId, 2, .policyCheck⟩
            { r' with revision := r'.revision + 1, state := .policyCheck } :=
          ⟨by rw [hrevision], rfl, iff_of_true (hof.decided.mpr (Or.inl hstate)) (Or.inr rfl)⟩
        rw [hput]
        exact hcharges.move hof' rfl rfl hours'
      · rintro _ _ ⟨_, -, hown⟩
        obtain rfl := hown _ rfl
        refine Prog.Holds.bind (Q := fun r own' => ∃ more, own' = own + more ∧ ∀ x, r = .ok x →
            own' = own + (0, fresh id) ∧ x.operationId = id ∧ x.revision = 3 ∧ x.state = .waitingHuman) ?_ ?_ ?_
        · refine charged_transition hcharging (m := own + (0, fresh id))
            (fun e => ⟨_, rfl, fun x hx => (nomatch hx)⟩) ?_
            fun _ => charged_operation_of_fresh hcharging fun r hid hrevision hstate =>
              ⟨_, rfl, fun x hx => Except.ok.inj hx ▸ ⟨rfl, hid, hrevision, hstate⟩⟩
          rintro s rest a r hi rfl hget hrevision hstate hours' hvalid hput
          obtain ⟨r', hget', hof, -⟩ := hi.1.exact _ mem_charges
          obtain rfl : r' = r := Option.some.inj (hget'.symm.trans hget)
          rw [← add_assoc] at hi ⊢
          have hcharges : ChargesOk ours ((rest + own).1 + {⟨r'.operationId, 2, .policyCheck⟩})
              s.authority.operations := hi.1
          obtain ⟨hrest, hother, -⟩ := hcharges.of_add
          have hundecided : r'.permissionDecision = none := hof.decided.mpr (Or.inr hstate)
          refine ⟨?_, hcharging.waiting _ _ _ r' hi hget hstate hours' hundecided hput⟩
          change ChargesOk ours ((rest + own).1 + 0) a.operations
          rw [add_zero, hput]
          exact hrest.put hother
        · rintro waiting own' ⟨_, -, hown⟩
          obtain ⟨rfl, hid, hrevision, hstate⟩ := hown waiting rfl
          refine charged_lift_bind (fun e => herr e _) fun approval _ => ?_
          refine Prog.Holds.bind (Q := fun r own' => own' = own + (0, fresh id))
            (charged_event hcharging (by simp [operationEvent]) (by simp [operationEvent]) (by simp [operationEvent])
              fun _ => rfl) ?_ ?_
          · rintro _ _ rfl
            exact hok waiting hid hrevision hstate
          · rintro e _ rfl
            exact herr e _
        · rintro e _ ⟨more, rfl, -⟩
          exact herr e more
      · rintro e _ ⟨more, rfl, -⟩
        exact herr e more
    · rintro e _ rfl
      exact herr' e
  · rintro e _ rfl
    exact herr' e

end Methods

/-! ## Programs of a gateway -/

section Gateway

variable {C : LineCodec EventEnvelope} {D : Digests} {exec : (op : Op) → σ → σ × Ans op}
  {allowed : SharedOp Op → Shared σ → Prop} {inv : Tokens N → Shared σ → Prop} {own : Tokens N}

/-- A method called by a thread of a gateway. -/
theorem holds_daemonCall {m : Method α} {P : Except ε (Except DaemonError α) → Tokens N → Prop}
    (h : Charged C D allowed ours inv m (fun r => P (.ok r)) own) :
    (daemonCall m : Prog (SharedOp Op) (SharedAns Ans) ε (Except DaemonError α)).Holds (execShared C D exec) allowed
      (WithCharges ours inv) P own :=
  Prog.Holds.embed (fun _ _ => rfl) (fun _ _ h => h) h

/-- An operation of the gateway, which may give up charges. -/
theorem holds_own {op : Op} {P : Except ε (Ans op) → Tokens N → Prop}
    (h : ∀ s rest, WithCharges ours inv (rest + own) s → allowed (.own op) s →
      ∃ own', own'.1 ≤ own.1 ∧ inv (rest + own') { s with own := (exec op s.own).1 } ∧
        P (.ok (exec op s.own).2) own') :
    (Prog.perform (SharedOp.own op) : Prog (SharedOp Op) (SharedAns Ans) ε (Ans op)).Holds (execShared C D exec) allowed
      (WithCharges ours inv) P own := by
  intro s rest hi hallowed
  obtain ⟨own', hle, hinv, hP⟩ := h s rest hi hallowed
  exact ⟨own', ⟨hi.1.mono (add_le_add_right hle rest.1), hinv⟩, hP⟩

end Gateway

end HyperTerm.Daemon
