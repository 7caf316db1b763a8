import HyperTerm.Daemon.Reconcile

/-!
# Receipts of calls that complete the same operation

`complete_operation` journals its receipt before the transition that checks the revision, and the reducer does not
look at receipts. Of several calls at one revision each can overwrite the receipt of the one that decides the state.

* `ReceiptsAgree` : what the calls should guarantee;
* `InTurn` : the steps that keep it (`receipts_agree_of_inTurn`): a receipt is journalled only while no other call has
  journalled one, and the transition after it does not fail to be appended;
* `overtaken_receipt_disagrees` : two calls that do not.
-/

namespace HyperTerm.Daemon
open HyperTerm.Protocol HyperTerm.Core HyperTerm.Lib

variable {C : LineCodec EventEnvelope} {D : Digests}

/-! ## The calls -/

structure CompletionCall where
  env : Nat → RecordEnv
  taskId : TaskId
  completion : OperationCompletion

def CompletionCall.method (call : CompletionCall) (id : OperationId) (revision : Nat) : Method Unit :=
  (completeOperation call.env call.taskId id revision call.completion).discard

/-- The calls at one revision of an operation, and which of them have changed its receipt block. -/
structure Completions where
  pool : DaemonPool
  changed : List Nat

def receiptBlock (D : Digests) (a : AuthorityState) (taskId : TaskId) (id : OperationId) : Option BlockEnvelope :=
  blockAt a.projectors taskId (stableBlockId D "receipt" id.uuid.text)

/-- The outcome that the receipt block shows. -/
def shownOutcome (D : Digests) (a : AuthorityState) (taskId : TaskId) (id : OperationId) : Option OperationOutcome :=
  (receiptBlock D a taskId id).bind fun block =>
    match block.payload with
    | .operationReceipt _ _ _ _ outcome _ _ => outcome
    | _ => none

/-- A new call, or one operation of a call. -/
inductive CompletionStep (C : LineCodec EventEnvelope) (D : Digests) (taskId : TaskId) (id : OperationId)
    (revision : Nat) (admitted : Completions → Nat → Prop) : Completions → Completions → Prop
  | call {s : Completions} (call : CompletionCall) :
      CompletionStep C D taskId id revision admitted s
        { s with pool := { s.pool with threads := s.pool.threads ++ [call.method id revision] } }
  | advance {s : Completions} (thread : Nat) (pool : DaemonPool)
      (h : s.pool.advance (execAuthority C D) thread = some pool) (hadmitted : admitted s thread) :
      CompletionStep C D taskId id revision admitted s
        { pool
          changed := if receiptBlock D pool.state taskId id = receiptBlock D s.pool.state taskId id then s.changed
            else thread :: s.changed }

/-- Once the operation has left Dispatching the receipt block shows its state, and a call that has failed has not
changed the receipt block. -/
structure ReceiptsAgree (D : Digests) (taskId : TaskId) (id : OperationId) (s : Completions) : Prop where
  outcome : ∀ r, s.pool.state.operations.get id = some r → r.state ≠ .dispatching →
    ∃ outcome, shownOutcome D s.pool.state taskId id = some outcome ∧ r.state = targetState outcome
  failed : ∀ thread e, s.pool.threads[thread]? = some (.ret (.error e)) → thread ∉ s.changed

/-- The append of the event meets no failing clock or write and no line that is too long. -/
def AppendSucceeds (C : LineCodec EventEnvelope) (a : AuthorityState) (env : RecordEnv) (event : NewEvent) : Prop :=
  env.io = .done ∧ ∃ envelope, a.journal.prepare env.clock env.eventId event = .ok envelope ∧
    (C.encode envelope).length ≤ maxEventLineBytes

def DomainEvent.isOperationReceipt : DomainEvent → Bool
  | .operationReceipt .. => true
  | _ => false

/-- A receipt is journalled only while no call has changed the receipt block, and the transition that follows it can
be appended. -/
def InTurn (C : LineCodec EventEnvelope) (D : Digests) (s : Completions) (thread : Nat) : Prop :=
  ∀ env event, s.pool.nextOp thread = some (.record env event) →
    if DomainEvent.isOperationReceipt event.payload then
      (∃ x, (s.pool.state.record C D env event).2 = .ok x) → s.changed = []
    else AppendSucceeds C s.pool.state env event

/-! ## The parts of a call -/

/-- A call that has passed its checks. -/
structure CheckedCompletion where
  env : Nat → RecordEnv
  outcome : OperationOutcome
  executor : String
  summary : String
  digest : Option String

namespace CheckedCompletion

variable (c : CheckedCompletion) (taskId : TaskId) (id : OperationId) (revision : Nat)

def receipt : NewEvent :=
  Method.operationEvent taskId id
    (.operationReceipt revision c.executor c.outcome.hasSucceeded (some c.outcome) c.summary c.digest)

def change (fromState : OperationState) : NewEvent :=
  Method.operationEvent taskId id
    (.operationStateChanged (revision + 1) fromState (targetState c.outcome) .system (some c.summary))

/-- What is left before the receipt, after it, before the transition is recorded, and after. -/
def checked : Method Unit :=
  Method.discard (do
    Method.record (c.env 0) (c.receipt taskId id revision)
    transition (c.env 1) taskId id revision (targetState c.outcome) .system (some c.summary))

def receipted : Method Unit :=
  (transition (c.env 1) taskId id revision (targetState c.outcome) .system (some c.summary)).discard

def moving (fromState : OperationState) : Method Unit :=
  Method.discard (do
    Method.record (c.env 1) (c.change taskId id revision fromState)
    Method.operation id)

def moved : Method Unit := (Method.operation id).discard

end CheckedCompletion

/-- The program has failed, or is as described. -/
def FailedOr (Q : Method Unit → Prop) (m : Method Unit) : Prop := (∃ e, m = .ret (.error e)) ∨ Q m

theorem failedOr_lift {α β : Type} {Q : Method Unit → Prop} {r : Except DaemonError α} {f : α → Method β}
    (h : ∀ x, r = .ok x → FailedOr Q (f x).discard) : FailedOr Q (Method.lift r >>= f).discard := by
  cases r with
  | error e => exact Or.inl ⟨e, rfl⟩
  | ok x => exact h x rfl

/-- A method that reads the operation first. -/
theorem operation_discard {α : Type} {id : OperationId} {f : OperationRecord → Method α} :
    ∃ next, (Method.operation id >>= f).discard = .call AuthorityOp.read next ∧ ∀ x,
      FailedOr (fun m => ∃ r, x.1.get id = some r ∧ m = (f r).discard) (next x) := by
  refine ⟨_, rfl, fun x => ?_⟩
  change FailedOr _ (Method.lift (okOr (x.1.get id) (DaemonError.operationNotFound id)) >>= f).discard
  exact failedOr_lift fun r hr => Or.inr ⟨r, okOr_eq_ok.mp hr, rfl⟩

/-- A method that records an event first. -/
theorem record_discard {α : Type} (env : RecordEnv) (event : NewEvent) (f : Unit → Method α) :
    ∃ next, (Method.record env event >>= f).discard = .call (AuthorityOp.record env event) next ∧
      (∀ e, next (.error e) = .ret (.error e)) ∧ ∀ x, next (.ok x) = (f ()).discard :=
  ⟨_, rfl, fun _ => rfl, fun _ => rfl⟩

theorem method_cases (call : CompletionCall) (id : OperationId) (revision : Nat) :
    ∃ next, call.method id revision = .call AuthorityOp.read next ∧ ∀ x,
      FailedOr (fun m => ∃ c : CheckedCompletion, ∃ r, x.1.get id = some r ∧ r.taskId = call.taskId ∧
        m = c.checked call.taskId id revision) (next x) := by
  obtain ⟨next, hnext, hread⟩ : ∃ next, (completeOperation call.env call.taskId id revision call.completion).discard =
      .call AuthorityOp.read next ∧ _ := operation_discard
  refine ⟨next, hnext, fun x => ?_⟩
  rcases hread x with hfailed | ⟨r, hget, hm⟩
  · exact Or.inl hfailed
  rw [hm]
  refine failedOr_lift fun _ hscope => failedOr_lift fun _ _ => failedOr_lift fun outcome _ => ?_
  refine failedOr_lift fun _ _ => failedOr_lift fun executor _ => failedOr_lift fun summary _ => ?_
  refine failedOr_lift fun _ _ => Or.inr ⟨⟨call.env, outcome, executor, summary, call.completion.resultDigest⟩, r,
    hget, (validateOperationScope_eq_ok hscope).1, rfl⟩

/-- The parts of a call that has journalled no receipt. -/
inductive Unjournalled (taskId : TaskId) (id : OperationId) (revision : Nat) : Method Unit → Prop
  | fresh (call : CompletionCall) : Unjournalled taskId id revision (call.method id revision)
  | checked (c : CheckedCompletion) : Unjournalled taskId id revision (c.checked taskId id revision)
  | failed (e : DaemonError) : Unjournalled taskId id revision (.ret (.error e))

/-! ## The invariant -/

/-- How far the calls have come: none has journalled a receipt, or one has, which shows its outcome, and then moves the
operation. -/
inductive Progress (D : Digests) (r₀ : OperationRecord) (s : Completions) : Prop
  | dispatched (hget : s.pool.state.operations.get r₀.operationId = some r₀) (hchanged : s.changed = [])
      (hall : ∀ m ∈ s.pool.threads, Unjournalled r₀.taskId r₀.operationId r₀.revision m)
  | journalled (thread : Nat) (c : CheckedCompletion)
      (hget : s.pool.state.operations.get r₀.operationId = some r₀)
      (hshown : shownOutcome D s.pool.state r₀.taskId r₀.operationId = some c.outcome)
      (hchanged : s.changed = [thread])
      (hthread : s.pool.threads[thread]? = some (c.receipted r₀.taskId r₀.operationId r₀.revision) ∨
        s.pool.threads[thread]? = some (c.moving r₀.taskId r₀.operationId r₀.revision r₀.state))
      (hothers : ∀ i m, i ≠ thread → s.pool.threads[i]? = some m →
        Unjournalled r₀.taskId r₀.operationId r₀.revision m)
  | moved (thread : Nat) (c : CheckedCompletion)
      (hget : s.pool.state.operations.get r₀.operationId = some (OperationRecord.moved r₀ (targetState c.outcome)))
      (hshown : shownOutcome D s.pool.state r₀.taskId r₀.operationId = some c.outcome)
      (hchanged : s.changed = [thread])
      (hthread : s.pool.threads[thread]? = some (CheckedCompletion.moved r₀.operationId) ∨
        s.pool.threads[thread]? = some (.ret (.ok ())))
      (hothers : ∀ i m, i ≠ thread → s.pool.threads[i]? = some m →
        Unjournalled r₀.taskId r₀.operationId r₀.revision m)

theorem Progress.agrees {r₀ : OperationRecord} {s : Completions} (hstate : r₀.state = .dispatching)
    (h : Progress D r₀ s) : ReceiptsAgree D r₀.taskId r₀.operationId s := by
  cases h with
  | dispatched hget hchanged hall =>
      refine ⟨fun r hr hne => ?_, fun thread e _ => hchanged ▸ List.not_mem_nil⟩
      rw [hget] at hr
      exact absurd hstate (Option.some.inj hr ▸ hne)
  | journalled j c hget hshown hchanged hthread hothers =>
      refine ⟨fun r hr hne => ?_, fun thread e he hmem => ?_⟩
      · rw [hget] at hr
        exact absurd hstate (Option.some.inj hr ▸ hne)
      · rw [hchanged, List.mem_singleton] at hmem
        subst hmem
        rcases hthread with hthread | hthread <;> exact nomatch he.symm.trans hthread
  | moved j c hget hshown hchanged hthread hothers =>
      refine ⟨fun r hr _ => ⟨c.outcome, hshown, ?_⟩, fun thread e he hmem => ?_⟩
      · rw [hget] at hr
        exact (Option.some.inj hr) ▸ rfl
      · rw [hchanged, List.mem_singleton] at hmem
        subst hmem
        rcases hthread with hthread | hthread <;> exact nomatch he.symm.trans hthread

/-! ## One step -/

section Steps

variable {a : AuthorityState} {taskId : TaskId} {id : OperationId} {revision : Nat} {c : CheckedCompletion}

theorem record_error_memory {env : RecordEnv} {event : NewEvent} {e : DaemonError}
    (h : (a.record C D env event).2 = .error e) :
    (a.record C D env event).1.operations = a.operations ∧ (a.record C D env event).1.projectors = a.projectors := by
  have hout := a.record_outcome (C := C) (D := D) env event
  rw [h] at hout
  generalize (a.record C D env event).1 = a' at hout ⊢
  cases hout with
  | refused => exact ⟨rfl, rfl⟩
  | ioFailed => exact ⟨rfl, rfl⟩

theorem record_receipt {env : RecordEnv} {x : EventEnvelope × BlockPatch}
    (h : (a.record C D env (c.receipt taskId id revision)).2 = .ok x) :
    (a.record C D env (c.receipt taskId id revision)).1.operations = a.operations ∧
      shownOutcome D (a.record C D env (c.receipt taskId id revision)).1 taskId id = some c.outcome ∧
      receiptBlock D (a.record C D env (c.receipt taskId id revision)).1 taskId id ≠ receiptBlock D a taskId id := by
  have hout := a.record_outcome (C := C) (D := D) env (c.receipt taskId id revision)
  rw [h] at hout
  generalize (a.record C D env (c.receipt taskId id revision)).1 = a' at hout ⊢
  cases hout with
  | recorded envelope operations projector patch henv htask hops hproj hio hlen =>
      have hpayload : envelope.payload = .operationReceipt revision c.executor c.outcome.hasSucceeded
          (some c.outcome) c.summary c.digest := henv.payload
      have hid : envelope.operationId = some id := henv.operationId
      have hoperations : operations = a.operations := by
        cases OperationReducer.apply_cases hops with
        | proposed _ _ _ _ _ _ hp => cases hpayload.symm.trans hp
        | moved _ _ _ _ hp => cases hpayload.symm.trans hp
        | requested => rfl
        | decided _ _ _ hp => cases hpayload.symm.trans hp
        | other => rfl
      have hkey : projector.taskId = taskId :=
        (BlockProjector.apply_taskId hproj).trans (projectorFor_taskId _ _)
      obtain ⟨-, -, q, blocks, hq, rfl, -⟩ := BlockProjector.apply_eq_ok.mp hproj
      obtain ⟨block, hget, hne, hblock⟩ := BlockProjector.get?_receipt hpayload hid hq
      have hafter : blockAt (a.projectors.put { q with revision := envelope.sequence }) taskId
          (stableBlockId D "receipt" id.uuid.text) = some block := by
        rw [blockAt, Keyed.get?_put, hkey, if_pos rfl]
        exact hget
      refine ⟨hoperations, ?_, fun heq => hne ?_⟩
      · rw [shownOutcome, receiptBlock, hafter, Option.bind_some, hblock]
      · rw [receiptBlock, hafter, receiptBlock, blockAt] at heq
        cases hp : a.projectors.get? taskId with
        | none =>
            rw [hp] at heq
            cases heq
        | some p =>
            rw [hp] at heq
            change (projectorFor a.projectors taskId).blocks.get? _ = _
            rw [projectorFor, hp]
            exact heq.symm

/-- A call that has journalled no receipt reads, fails, or journals one. -/
theorem unjournalled_step {m : Method Unit} {op : AuthorityOp} {next : AuthorityAns op → Method Unit}
    (h : Unjournalled taskId id revision m) (hm : m = .call op next)
    (htask : ∀ r, a.operations.get id = some r → r.taskId = taskId) :
    ((execAuthority C D op a).1.operations = a.operations ∧ (execAuthority C D op a).1.projectors = a.projectors ∧
      Unjournalled taskId id revision (next (execAuthority C D op a).2)) ∨
    ∃ c : CheckedCompletion, op = .record (c.env 0) (c.receipt taskId id revision) ∧
      (∃ x, (a.record C D (c.env 0) (c.receipt taskId id revision)).2 = .ok x) ∧
      next (execAuthority C D op a).2 = c.receipted taskId id revision := by
  cases h with
  | fresh call =>
      obtain ⟨next', hnext, hread⟩ := method_cases call id revision
      rw [hnext] at hm
      cases hm
      refine Or.inl ⟨rfl, rfl, ?_⟩
      rcases hread (a.operations, a.projectors) with ⟨e, he⟩ | ⟨c, r, hget, hr, hc⟩
      · exact he ▸ .failed e
      · rw [htask r hget] at hr
        exact hr ▸ hc ▸ .checked c
  | checked c =>
      obtain ⟨next', hnext, herror, hok⟩ := record_discard (c.env 0) (c.receipt taskId id revision)
        fun _ => transition (c.env 1) taskId id revision (targetState c.outcome) .system (some c.summary)
      rw [CheckedCompletion.checked, hnext] at hm
      cases hm
      cases hresult : (a.record C D (c.env 0) (c.receipt taskId id revision)).2 with
      | error e =>
          obtain ⟨hops, hprojectors⟩ := record_error_memory hresult
          refine Or.inl ⟨hops, hprojectors, ?_⟩
          change Unjournalled _ _ _ (next' (a.record C D (c.env 0) (c.receipt taskId id revision)).2)
          rw [hresult, herror]
          exact .failed e
      | ok x =>
          refine Or.inr ⟨c, rfl, ⟨x, hresult⟩, ?_⟩
          change next' (a.record C D (c.env 0) (c.receipt taskId id revision)).2 = _
          rw [hresult, hok]
          rfl
  | failed e => exact nomatch hm

variable {r₀ : OperationRecord}

theorem receipted_step {op : AuthorityOp} {next : AuthorityAns op → Method Unit}
    (hm : c.receipted r₀.taskId r₀.operationId r₀.revision = .call op next)
    (hget : a.operations.get r₀.operationId = some r₀) :
    (execAuthority C D op a).1 = a ∧
      next (execAuthority C D op a).2 = c.moving r₀.taskId r₀.operationId r₀.revision r₀.state := by
  have hvalid : validateOperationScope r₀ r₀.taskId r₀.revision = .ok () := by simp [validateOperationScope]
  cases hm
  refine ⟨rfl, ?_⟩
  change (Method.lift (okOr (a.operations.get r₀.operationId) (DaemonError.operationNotFound r₀.operationId)) >>=
    fun current => Method.lift (validateOperationScope current r₀.taskId r₀.revision) >>= fun _ => _).discard = _
  rw [hget]
  change (Method.lift (validateOperationScope r₀ r₀.taskId r₀.revision) >>= fun _ => _).discard = _
  rw [hvalid]
  rfl

/-- The transition after the receipt is accepted: nothing else has moved the operation. -/
theorem moving_step {op : AuthorityOp} {next : AuthorityAns op → Method Unit} (hconsistent : Consistent D a)
    (hm : c.moving r₀.taskId r₀.operationId r₀.revision r₀.state = .call op next)
    (hstate : r₀.state = .dispatching) (hget : a.operations.get r₀.operationId = some r₀)
    (happend : op = .record (c.env 1) (c.change r₀.taskId r₀.operationId r₀.revision r₀.state) →
      AppendSucceeds C a (c.env 1) (c.change r₀.taskId r₀.operationId r₀.revision r₀.state)) :
    Transition D a (execAuthority C D op a).1 r₀ (targetState c.outcome) ∧
      next (execAuthority C D op a).2 = CheckedCompletion.moved r₀.operationId := by
  obtain ⟨next', hnext, -, hok⟩ := record_discard (c.env 1) (c.change r₀.taskId r₀.operationId r₀.revision r₀.state)
    fun _ => Method.operation r₀.operationId
  rw [CheckedCompletion.moving, hnext] at hm
  cases hm
  obtain ⟨hio, envelope, hprep, hlen⟩ := happend rfl
  have hvalid : validTransition r₀.state (targetState c.outcome) = true := by
    rw [hstate]
    cases c.outcome <;> rfl
  have hclock : ∃ now, (c.env 1).clock = .ok now := by
    obtain ⟨now, hnow, -⟩ := bind_eq_ok.mp hprep
    exact ⟨now, hnow⟩
  obtain ⟨⟨envelope', operations, projector, patch⟩, htry⟩ :=
    accepts_transition hconsistent hget hvalid (some c.summary) (c.env 1) hclock
  obtain rfl : envelope = envelope' :=
    Except.ok.inj (hprep.symm.trans (AuthorityState.tryEvent_eq_ok.mp htry).2.1)
  have hrecord := AuthorityState.record_of_tryEvent htry hio hlen
  obtain ⟨r, hid, -, htransition⟩ := record_transition hrecord
  have hr := htransition.found
  rw [hid, hget] at hr
  obtain rfl := Option.some.inj hr
  have hexec : execAuthority C D (.record (c.env 1) (c.change r₀.taskId r₀.operationId r₀.revision r₀.state)) a = _ :=
    hrecord
  rw [hexec]
  exact ⟨htransition, hok _⟩

theorem moved_step {op : AuthorityOp} {next : AuthorityAns op → Method Unit} {r : OperationRecord}
    (hm : CheckedCompletion.moved id = .call op next) (hget : a.operations.get id = some r) :
    (execAuthority C D op a).1 = a ∧ next (execAuthority C D op a).2 = .ret (.ok ()) := by
  cases hm
  refine ⟨rfl, ?_⟩
  change (Method.lift (okOr (a.operations.get id) (DaemonError.operationNotFound id))).discard = _
  rw [hget]
  rfl

/-- The transition does not touch the receipt block, which is of another kind than that of the operation. -/
theorem receiptBlock_of_transition {a' : AuthorityState} {toState : OperationState} {outcome : OperationOutcome}
    (hconsistent : Consistent D a) (htransition : Transition D a a' r₀ toState)
    (hshown : shownOutcome D a r₀.taskId r₀.operationId = some outcome) :
    receiptBlock D a' r₀.taskId r₀.operationId = receiptBlock D a r₀.taskId r₀.operationId := by
  refine htransition.others _ _ fun heq => ?_
  obtain ⟨block, hblock, hpayload⟩ := Option.bind_eq_some_iff.mp hshown
  have hkind := hconsistent.filed _ _ htransition.found
  rw [← heq, blockKind_eq] at hkind
  rw [receiptBlock] at hblock
  rw [hblock] at hkind
  obtain ⟨p, hp, hget⟩ := Option.bind_eq_some_iff.mp hblock
  have htyped := hconsistent.typed _ p hp _ block hget
  rw [Option.some.inj hkind] at htyped
  split at hpayload
  case h_1 heq' =>
    rw [heq'] at htyped
    exact nomatch htyped
  case h_2 => exact nomatch hpayload

end Steps

section Run

variable {r₀ : OperationRecord}

theorem shownOutcome_congr {a a' : AuthorityState} {taskId : TaskId} {id : OperationId}
    (h : receiptBlock D a' taskId id = receiptBlock D a taskId id) :
    shownOutcome D a' taskId id = shownOutcome D a taskId id := by
  rw [shownOutcome, shownOutcome, h]

theorem receiptBlock_congr {a a' : AuthorityState} (h : a'.projectors = a.projectors) (taskId : TaskId)
    (id : OperationId) : receiptBlock D a' taskId id = receiptBlock D a taskId id := by
  rw [receiptBlock, receiptBlock, h]

/-- The threads but one after a step of that one. -/
theorem threads_set {threads : List (Method Unit)} {i j : Nat} {m : Method Unit} (hne : i ≠ j) :
    (threads.set j m)[i]? = threads[i]? := List.getElem?_set_ne (Ne.symm hne)

theorem progress_step {s s' : Completions} (hstate : r₀.state = .dispatching)
    (hconsistent : Consistent D s.pool.state)
    (hstep : CompletionStep C D r₀.taskId r₀.operationId r₀.revision (InTurn C D) s s') (h : Progress D r₀ s) :
    Progress D r₀ s' := by
  cases hstep with
  | call call =>
      have happend {j : Nat} {m : Method Unit} (hm : s.pool.threads[j]? = some m) :
          (s.pool.threads ++ [call.method r₀.operationId r₀.revision])[j]? = some m := by
        rw [List.getElem?_append_left (List.getElem?_eq_some_iff.mp hm).1, hm]
      have hothers {j : Nat} (hother : ∀ i m, i ≠ j → s.pool.threads[i]? = some m →
          Unjournalled r₀.taskId r₀.operationId r₀.revision m) (i : Nat) (m : Method Unit) (hne : i ≠ j)
          (hm : (s.pool.threads ++ [call.method r₀.operationId r₀.revision])[i]? = some m) :
          Unjournalled r₀.taskId r₀.operationId r₀.revision m := by
        rw [List.getElem?_append] at hm
        split_ifs at hm with hlt
        · exact hother i m hne hm
        · obtain rfl := List.mem_singleton.mp (List.mem_of_getElem? hm)
          exact .fresh call
      cases h with
      | dispatched hget hchanged hall =>
          refine .dispatched hget hchanged fun m hm => ?_
          rcases List.mem_append.mp hm with hm | hm
          · exact hall m hm
          · exact List.mem_singleton.mp hm ▸ .fresh call
      | journalled j c hget hshown hchanged hthread hother =>
          exact .journalled j c hget hshown hchanged (hthread.imp happend happend) (hothers hother)
      | moved j c hget hshown hchanged hthread hother =>
          exact .moved j c hget hshown hchanged (hthread.imp happend happend) (hothers hother)
  | advance thread pool hadvance hinturn =>
      unfold Pool.advance at hadvance
      split at hadvance
      case h_2 => exact nomatch hadvance
      case h_1 op next hm =>
      obtain rfl := Option.some.inj hadvance
      have hnextOp : s.pool.nextOp thread = some op := by rw [Pool.nextOp, hm]
      have hself : (s.pool.threads.set thread (next (execAuthority C D op s.pool.state).2))[thread]? =
          some (next (execAuthority C D op s.pool.state).2) :=
        List.getElem?_set_self (List.getElem?_eq_some_iff.mp hm).1
      -- The receipt of this call is journalled only if no other is.
      have hfirst (c : CheckedCompletion) (hop : op = .record (c.env 0) (c.receipt r₀.taskId r₀.operationId r₀.revision))
          (hx : ∃ x, (s.pool.state.record C D (c.env 0) (c.receipt r₀.taskId r₀.operationId r₀.revision)).2 = .ok x) :
          s.changed = [] := by
        have := hinturn _ _ (hnextOp.trans (congrArg some hop))
        exact this hx
      -- Once a call has journalled its receipt, a step of another leaves records, blocks and that call alone.
      have hlate {j : Nat} (hj : thread ≠ j) (hchanged : s.changed = [j])
          (hothers : ∀ i m, i ≠ j → s.pool.threads[i]? = some m →
            Unjournalled r₀.taskId r₀.operationId r₀.revision m)
          (htask : ∀ r, s.pool.state.operations.get r₀.operationId = some r → r.taskId = r₀.taskId) :
          (execAuthority C D op s.pool.state).1.operations = s.pool.state.operations ∧
            (execAuthority C D op s.pool.state).1.projectors = s.pool.state.projectors ∧
            ∀ i m, i ≠ j → (s.pool.threads.set thread (next (execAuthority C D op s.pool.state).2))[i]? = some m →
              Unjournalled r₀.taskId r₀.operationId r₀.revision m := by
        rcases unjournalled_step (hothers thread _ hj hm) rfl htask with ⟨hops, hprojectors, hnext⟩ | ⟨c, hop, hx, -⟩
        · refine ⟨hops, hprojectors, fun i m hi hm' => ?_⟩
          by_cases heq : i = thread
          · subst heq
            exact Option.some.inj (hself.symm.trans hm') ▸ hnext
          · exact hothers i m hi ((threads_set heq).symm.trans hm')
        · exact nomatch hchanged.symm.trans (hfirst c hop hx)
      cases h with
      | dispatched hget hchanged hall =>
          have htask (r : OperationRecord) (hr : s.pool.state.operations.get r₀.operationId = some r) :
              r.taskId = r₀.taskId := by
            rw [hget] at hr
            exact (Option.some.inj hr) ▸ rfl
          rcases unjournalled_step (hall _ (List.mem_of_getElem? hm)) rfl htask with
            ⟨hops, hprojectors, hnext⟩ | ⟨c, hop, ⟨x, hx⟩, hnext⟩
          · refine .dispatched (hops ▸ hget) ((if_pos (receiptBlock_congr hprojectors _ _)).trans hchanged)
              fun m' hm' => ?_
            rcases List.mem_or_eq_of_mem_set hm' with hm' | rfl
            · exact hall m' hm'
            · exact hnext
          · subst hop
            obtain ⟨hops, hshown, hne⟩ := record_receipt hx
            refine .journalled thread c (hops ▸ hget) hshown ((if_neg hne).trans (congrArg (thread :: ·) hchanged))
              (Or.inl (hself.trans (congrArg some hnext))) fun i m' hi hm' => ?_
            exact hall m' (List.mem_of_getElem? ((threads_set hi).symm.trans hm'))
      | journalled j c hget hshown hchanged hthread hothers =>
          by_cases hj : thread = j
          · subst hj
            have hothers' (i : Nat) (m' : Method Unit) (hi : i ≠ thread)
                (hm' : (s.pool.threads.set thread (next (execAuthority C D op s.pool.state).2))[i]? = some m') :
                Unjournalled r₀.taskId r₀.operationId r₀.revision m' :=
              hothers i m' hi ((threads_set hi).symm.trans hm')
            rcases hthread with hthread | hthread
            · obtain ⟨hexec, hnext⟩ :=
                receipted_step (C := C) (D := D) (Option.some.inj (hthread.symm.trans hm)) hget
              exact .journalled thread c (hexec.symm ▸ hget) (hexec.symm ▸ hshown)
                ((if_pos (by rw [hexec])).trans hchanged) (Or.inr (hself.trans (congrArg some hnext))) hothers'
            · obtain ⟨htransition, hnext⟩ := moving_step hconsistent (Option.some.inj (hthread.symm.trans hm)) hstate hget
                fun hop => hinturn _ _ (hnextOp.trans (congrArg some hop))
              have hblock := receiptBlock_of_transition hconsistent htransition hshown
              refine .moved thread c ?_ ((shownOutcome_congr hblock).trans hshown) ((if_pos hblock).trans hchanged)
                (Or.inl (hself.trans (congrArg some hnext))) hothers'
              rw [htransition.operations]
              exact OperationReducer.get_put_self _ _
          · obtain ⟨hops, hprojectors, hnext⟩ := hlate hj hchanged hothers (by simp [hget])
            have hblock := receiptBlock_congr (D := D) hprojectors r₀.taskId r₀.operationId
            exact .journalled j c (hops ▸ hget) ((shownOutcome_congr hblock).trans hshown)
              ((if_pos hblock).trans hchanged)
              (hthread.imp (threads_set (Ne.symm hj)).trans (threads_set (Ne.symm hj)).trans) hnext
      | moved j c hget hshown hchanged hthread hothers =>
          by_cases hj : thread = j
          · subst hj
            rcases hthread with hthread | hthread
            · obtain ⟨hexec, hnext⟩ := moved_step (C := C) (D := D) (Option.some.inj (hthread.symm.trans hm)) hget
              exact .moved thread c (hexec.symm ▸ hget) (hexec.symm ▸ hshown) ((if_pos (by rw [hexec])).trans hchanged)
                (Or.inr (hself.trans (congrArg some hnext)))
                fun i m' hi hm' => hothers i m' hi ((threads_set hi).symm.trans hm')
            · exact nomatch hthread.symm.trans hm
          · obtain ⟨hops, hprojectors, hnext⟩ := hlate hj hchanged hothers (by simp [hget, OperationRecord.moved])
            have hblock := receiptBlock_congr (D := D) hprojectors r₀.taskId r₀.operationId
            exact .moved j c (hops ▸ hget) ((shownOutcome_congr hblock).trans hshown) ((if_pos hblock).trans hchanged)
              (hthread.imp (threads_set (Ne.symm hj)).trans (threads_set (Ne.symm hj)).trans) hnext

theorem CompletionStep.consistent {taskId : TaskId} {id : OperationId} {revision : Nat}
    {admitted : Completions → Nat → Prop} {s s' : Completions}
    (hstep : CompletionStep C D taskId id revision admitted s s') (h : Consistent D s.pool.state) :
    Consistent D s'.pool.state := by
  cases hstep with
  | call => exact h
  | advance thread pool hadvance _ =>
      have hpool : Pool.Step (execAuthority C D) Request _ _ := .advance thread hadvance
      refine hpool.state (fun op a ha => ?_) h
      cases op with
      | read => exact ha
      | record env event => exact ha.record env event

/-- **Receipts in turn agree with the state.** From any state of any run in which the operation is dispatched, after
any run of calls that complete it at that revision and whose steps are in turn, the receipt block shows the state
that the operation has left Dispatching for, and no call that has failed has changed it. -/
theorem receipts_agree_of_inTurn (C : LineCodec EventEnvelope) (D : Digests)
    (readArtifact : AcceptedGenUiArtifact → Except String Unit) (pool : DaemonPool)
    (hreached : Relation.ReflTransGen (DaemonStep C D readArtifact) .start pool) (r : OperationRecord)
    (hget : pool.state.operations.get r.operationId = some r) (hstate : r.state = .dispatching) (s : Completions)
    (hrun : Relation.ReflTransGen (CompletionStep C D r.taskId r.operationId r.revision (InTurn C D))
      ⟨⟨pool.state, []⟩, []⟩ s) : ReceiptsAgree D r.taskId r.operationId s := by
  have hconsistent : Consistent D pool.state := consistent_run hreached
  have hinv : Consistent D s.pool.state ∧ Progress D r s := by
    induction hrun with
    | refl => exact ⟨hconsistent, .dispatched hget rfl fun m hm => absurd hm List.not_mem_nil⟩
    | tail _ hstep ih => exact ⟨hstep.consistent ih.1, progress_step hstate ih.1 hstep ih.2⟩
  exact hinv.2.agrees hstate

end Run

/-! ## Two calls, in turn and not -/

def dryInTurn (D : Digests) (s : Completions) (thread : Nat) : Bool :=
  match s.pool.nextOp thread with
  | some (.record env event) =>
      if DomainEvent.isOperationReceipt event.payload then s.changed.isEmpty
      else (s.pool.state.tryEvent D env event).toOption.isSome
  | _ => true

/-- A step of a dry run, which may have to be in turn. -/
def dryCompletion (D : Digests) (taskId : TaskId) (id : OperationId) (checked : Bool) (s : Completions)
    (thread : Nat) : Option Completions :=
  if checked && !dryInTurn D s thread then none
  else (dryAdvance D s.pool thread).map fun pool =>
    { pool
      changed := if receiptBlock D pool.state taskId id = receiptBlock D s.pool.state taskId id then s.changed
        else thread :: s.changed }

theorem appendSucceeds_of_dry {a : AuthorityState} {pool pool' : DaemonPool} {thread : Nat} {env : RecordEnv}
    {event : NewEvent} (hstands : Stands C D a pool.state) (hnext : pool.nextOp thread = some (.record env event))
    (htry : (pool.state.tryEvent D env event).toOption.isSome = true) (h : dryAdvance D pool thread = some pool')
    (hlen : ∀ e ∈ pool'.state.journal.events, (C.encode e).length ≤ maxEventLineBytes) :
    AppendSucceeds C a env event := by
  obtain ⟨x, hx⟩ : ∃ x, pool.state.tryEvent D env event = .ok x := by
    cases hx : pool.state.tryEvent D env event with
    | error e =>
        rw [hx] at htry
        exact nomatch htry
    | ok x => exact ⟨x, rfl⟩
  obtain ⟨envelope, operations, projector, patch⟩ := x
  unfold Pool.nextOp at hnext
  unfold dryAdvance at h
  split at hnext
  case h_2 => exact nomatch hnext
  case h_1 op next hget =>
    obtain rfl := Option.some.inj hnext
    rw [hget] at h
    obtain ⟨⟨b', answer⟩, hexec, rfl⟩ := Option.map_eq_some_iff.mp h
    simp only [dryExec] at hexec
    split_ifs at hexec with hio
    rw [hx] at hexec
    obtain ⟨rfl, -⟩ := Prod.mk.inj (Option.some.inj hexec)
    have hprep := (AuthorityState.tryEvent_eq_ok.mp hx).2.1
    refine ⟨hio, envelope, ?_, hlen envelope (by simp)⟩
    rw [← hprep, JsonlJournal.prepare, JsonlJournal.prepare, JsonlJournal.lastSequence, JsonlJournal.lastSequence,
      hstands.same.events]

theorem inTurn_of_dry {a : AuthorityState} {s : Completions} {pool' : DaemonPool} {thread : Nat}
    (hstands : Stands C D a s.pool.state) (h : dryInTurn D s thread = true)
    (hadvance : dryAdvance D s.pool thread = some pool')
    (hlen : ∀ e ∈ pool'.state.journal.events, (C.encode e).length ≤ maxEventLineBytes) :
    InTurn C D ⟨⟨a, s.pool.threads⟩, s.changed⟩ thread := by
  intro env event hnext
  have hnext : s.pool.nextOp thread = some (.record env event) := hnext
  rw [dryInTurn, hnext] at h
  dsimp only at h
  by_cases hreceipt : DomainEvent.isOperationReceipt event.payload = true
  · rw [if_pos hreceipt] at h ⊢
    exact fun _ => List.isEmpty_iff.mp h
  · rw [if_neg hreceipt] at h ⊢
    exact appendSucceeds_of_dry hstands hnext h hadvance hlen

section Dry

variable {a : AuthorityState} {taskId : TaskId} {id : OperationId} {revision : Nat} {checked : Bool}
  {s s' : Completions} {admitted : Completions → Nat → Prop}

theorem completion_of_dry (revision : Nat) {thread : Nat}
    (hadmitted : ∀ s thread, (checked = true → InTurn C D s thread) → admitted s thread)
    (hstands : Stands C D a s.pool.state) (h : dryCompletion D taskId id checked s thread = some s')
    (hlen : ∀ e ∈ s'.pool.state.journal.events, (C.encode e).length ≤ maxEventLineBytes) :
    ∃ a', Relation.ReflTransGen (CompletionStep C D taskId id revision admitted)
      ⟨⟨a, s.pool.threads⟩, s.changed⟩ ⟨⟨a', s'.pool.threads⟩, s'.changed⟩ ∧ Stands C D a' s'.pool.state := by
  unfold dryCompletion at h
  split_ifs at h with hin
  obtain ⟨pool', hadvance, rfl⟩ := Option.map_eq_some_iff.mp h
  rcases advance_of_dryAdvance hstands hadvance hlen with rfl | ⟨a', hstep, hstands'⟩
  · exact ⟨a, by rw [if_pos rfl], hstands⟩
  have hturn : checked = true → InTurn C D ⟨⟨a, s.pool.threads⟩, s.changed⟩ thread := fun hchecked =>
    inTurn_of_dry hstands (by simpa [hchecked] using hin) hadvance hlen
  have hadvanced : CompletionStep C D taskId id revision admitted _ _ := .advance thread _ hstep (hadmitted _ _ hturn)
  rw [receiptBlock_congr hstands'.same.projectors, receiptBlock_congr hstands.same.projectors] at hadvanced
  exact ⟨a', .single hadvanced, hstands'⟩

theorem dryCompletions_events {schedule : List Nat}
    (h : schedule.foldlM (dryCompletion D taskId id checked) s = some s') :
    s.pool.state.journal.events <+: s'.pool.state.journal.events := by
  induction schedule generalizing s with
  | nil =>
      obtain rfl := Option.some.inj h
      exact List.prefix_rfl
  | cons thread schedule ih =>
      simp only [List.foldlM_cons, Option.bind_eq_bind, Option.bind_eq_some_iff] at h
      obtain ⟨s₁, h₁, h⟩ := h
      unfold dryCompletion at h₁
      split_ifs at h₁
      obtain ⟨pool', hadvance, rfl⟩ := Option.map_eq_some_iff.mp h₁
      exact (dryAdvance_events hadvance).trans (ih h)

theorem completions_of_dry (revision : Nat) {schedule : List Nat}
    (hadmitted : ∀ s thread, (checked = true → InTurn C D s thread) → admitted s thread)
    (hstands : Stands C D a s.pool.state) (h : schedule.foldlM (dryCompletion D taskId id checked) s = some s')
    (hlen : ∀ e ∈ s'.pool.state.journal.events, (C.encode e).length ≤ maxEventLineBytes) :
    ∃ a', Relation.ReflTransGen (CompletionStep C D taskId id revision admitted)
      ⟨⟨a, s.pool.threads⟩, s.changed⟩ ⟨⟨a', s'.pool.threads⟩, s'.changed⟩ ∧ Stands C D a' s'.pool.state := by
  induction schedule generalizing a s with
  | nil =>
      obtain rfl := Option.some.inj h
      exact ⟨a, .refl, hstands⟩
  | cons thread schedule ih =>
      simp only [List.foldlM_cons, Option.bind_eq_bind, Option.bind_eq_some_iff] at h
      obtain ⟨s₁, h₁, h⟩ := h
      have hhead := dryCompletions_events h
      obtain ⟨a₁, hstep, hstands₁⟩ := completion_of_dry revision hadmitted hstands h₁
        fun e he => hlen e (hhead.subset he)
      obtain ⟨a', hrun, hstands'⟩ := ih hstands₁ h
      exact ⟨a', hstep.trans hrun, hstands'⟩

theorem calls_spawned (calls : List CompletionCall) :
    Relation.ReflTransGen (CompletionStep C D taskId id revision admitted) ⟨⟨a, []⟩, []⟩
      ⟨⟨a, calls.map fun call => call.method id revision⟩, []⟩ := by
  induction calls using List.reverseRecOn with
  | nil => exact .refl
  | append_singleton calls call ih =>
      rw [List.map_append, List.map_singleton]
      exact ih.tail (.call call)

end Dry

/-- A daemon on which an operation has just been dispatched. -/
def sampleDispatched : List (Method Unit) :=
  [sampleCreate, samplePropose.discard, (sampleDecide .allowOnce).discard, sampleBegin.discard]

def sampleSucceeded : CompletionCall := ⟨sampleEnv, sampleTask, ⟨"executor", true, none, "done", none⟩⟩

def sampleFailed : CompletionCall := ⟨sampleEnv, sampleTask, ⟨"executor", false, none, "failed", none⟩⟩

def sampleDispatch : Option DaemonPool :=
  dryRun sampleDigests sampleDispatched ([0] ++ List.replicate 9 1 ++ List.replicate 6 2 ++ List.replicate 4 3)

/-- Calls of `complete_operation` on that daemon, in the order of the schedule. -/
def drySample (checked : Bool) (calls : List CompletionCall) (schedule : List Nat) : Option Completions :=
  sampleDispatch.bind fun pool => schedule.foldlM (dryCompletion sampleDigests sampleTask sampleOperation checked)
    ⟨⟨pool.state, calls.map fun call => call.method sampleOperation 5⟩, []⟩

/-- The run of the daemon and of the calls on it that a dry run stands for. -/
theorem reaches_of_drySample {checked : Bool} {calls : List CompletionCall} {schedule : List Nat} {s' : Completions}
    {A : LineCodec EventEnvelope → Completions → Nat → Prop}
    (hadmitted : ∀ C s thread, (checked = true → InTurn C sampleDigests s thread) → A C s thread)
    (h : drySample checked calls schedule = some s') (hlen : s'.pool.state.journal.events.length ≤ maxEventLineBytes) :
    ∃ (C : LineCodec EventEnvelope) (pool : DaemonPool) (r : OperationRecord) (s : Completions),
      Relation.ReflTransGen (DaemonStep C sampleDigests fun _ => .ok ()) .start pool ∧
      (r.taskId = sampleTask ∧ r.operationId = sampleOperation) ∧
      pool.state.operations.get r.operationId = some r ∧ r.state = .dispatching ∧
      Relation.ReflTransGen (CompletionStep C sampleDigests r.taskId r.operationId r.revision (A C))
        ⟨⟨pool.state, []⟩, []⟩ s ∧ SameMemory s.pool.state s'.pool.state := by
  obtain ⟨pool, hpool, hcalls⟩ := Option.bind_eq_some_iff.mp h
  have hshort : ∀ e ∈ s'.pool.state.journal.events,
      ((LineCodec.short s'.pool.state.journal.events).encode e).length ≤ maxEventLineBytes :=
    fun e he => (LineCodec.length_short_encode_le _ he).trans hlen
  have hrecord : (sampleDispatch.map fun pool => (pool.state.operations.get sampleOperation).map fun r =>
      (r.taskId, r.revision, r.state)) = some (some (sampleTask, 5, .dispatching)) := by decide +kernel
  rw [hpool, Option.map_some] at hrecord
  obtain ⟨r, hget, hr⟩ := Option.map_eq_some_iff.mp (Option.some.inj hrecord)
  simp only [Prod.mk.injEq] at hr
  obtain ⟨htask, hrevision, hstate⟩ := hr
  obtain hid : r.operationId = sampleOperation := OperationReducer.operationId_eq_of_get hget
  have hthreads : ∀ m ∈ sampleDispatched, Request m := by
    simp only [sampleDispatched, List.forall_mem_cons, List.not_mem_nil, false_imp_iff, implies_true, and_true]
    exact ⟨request_sampleCreate, .propose .., .decide .., .begin ..⟩
  obtain ⟨a, hrun, hstands⟩ : ∃ a, Relation.ReflTransGen (Pool.Step (execAuthority _ sampleDigests) Request) _ _ ∧ _ :=
    reaches_of_dryAdvance ⟨.refl emptyAuthority, openAuthority_nil⟩ hpool
      fun e he => hshort e ((dryCompletions_events hcalls).subset he)
  obtain ⟨a', hrun', hstands'⟩ := completions_of_dry 5 (hadmitted _) hstands hcalls hshort
  refine ⟨_, ⟨a, pool.threads⟩, r, ⟨⟨a', s'.pool.threads⟩, s'.changed⟩,
    DaemonStep.of_work ((Pool.reaches_spawned _ hthreads).trans hrun), ⟨htask, hid⟩, ?_, hstate, ?_, hstands'.same⟩
  · rw [hid, hstands.same.operations]
    exact hget
  · rw [htask, hid, hrevision]
    exact (calls_spawned calls).trans hrun'

/-- One call that completes a dispatched operation. -/
theorem receipts_agree_of_inTurn_one_call :
    ∃ (r : OperationRecord) (s : Completions), r.operationId = sampleOperation ∧
      (s.pool.state.operations.get sampleOperation).map OperationRecord.state = some .succeeded ∧
      ReceiptsAgree sampleDigests r.taskId r.operationId s := by
  have hdry : (drySample true [sampleSucceeded] (List.replicate 5 0)).map (fun s =>
      ((s.pool.state.operations.get sampleOperation).map OperationRecord.state,
        s.pool.state.journal.events.length)) = some (some .succeeded, 10) := by decide +kernel
  obtain ⟨s', hs', hobserved⟩ := Option.map_eq_some_iff.mp hdry
  obtain ⟨hstate, hlength⟩ := Prod.mk.inj hobserved
  obtain ⟨C, pool, r, s, hreached, hr, hget, hdispatching, hrun, hsame⟩ :=
    reaches_of_drySample (fun C s thread h => h rfl) hs' (by rw [hlength]; decide)
  exact ⟨r, s, hr.2, hsame.operations ▸ hstate,
    receipts_agree_of_inTurn C sampleDigests _ pool hreached r hget hdispatching s hrun⟩

/-- What the calls should guarantee, in any order of their steps. -/
def AlwaysAgree (C : LineCodec EventEnvelope) (D : Digests)
    (readArtifact : AcceptedGenUiArtifact → Except String Unit) : Prop :=
  ∀ pool, Relation.ReflTransGen (DaemonStep C D readArtifact) .start pool →
    ∀ r, pool.state.operations.get r.operationId = some r → r.state = .dispatching →
      ∀ s, Relation.ReflTransGen (CompletionStep C D r.taskId r.operationId r.revision fun _ _ => True)
        ⟨⟨pool.state, []⟩, []⟩ s → ReceiptsAgree D r.taskId r.operationId s

/-- Two calls pass the checks, both journal their receipts, and the one whose receipt was overwritten moves the
operation. -/
theorem overtaken_receipt_disagrees : ∃ C, ¬AlwaysAgree C sampleDigests (fun _ => .ok ()) := by
  have hdry : (drySample false [sampleSucceeded, sampleFailed] [0, 1, 0, 1, 0, 0, 0]).map (fun s =>
      ((s.pool.state.operations.get sampleOperation).map OperationRecord.state,
        shownOutcome sampleDigests s.pool.state sampleTask sampleOperation,
        s.pool.state.journal.events.length)) = some (some .succeeded, some .failed, 11) := by decide +kernel
  obtain ⟨s', hs', hobserved⟩ := Option.map_eq_some_iff.mp hdry
  simp only [Prod.mk.injEq] at hobserved
  obtain ⟨hstate, hshown, hlength⟩ := hobserved
  obtain ⟨C, pool, r, s, hreached, ⟨htask, hid⟩, hget, hdispatching, hrun, hsame⟩ :=
    reaches_of_drySample (A := fun _ _ _ => True) (fun _ _ _ _ => trivial) hs' (by rw [hlength]; decide)
  refine ⟨C, fun h => ?_⟩
  have hagree := (h pool hreached r hget hdispatching s hrun).outcome
  rw [← hsame.operations] at hstate
  obtain ⟨r', hget', hr'⟩ := Option.map_eq_some_iff.mp hstate
  obtain ⟨outcome, houtcome, htarget⟩ := hagree r' (hid ▸ hget') (by rw [hr']; simp)
  rw [shownOutcome, receiptBlock_congr hsame.projectors, htask, hid] at houtcome
  rw [shownOutcome] at hshown
  obtain rfl := Option.some.inj (houtcome.symm.trans hshown)
  rw [hr'] at htarget
  exact nomatch htarget

end HyperTerm.Daemon
