import HyperTerm.Daemon.LocalMcpClients

/-!
# The receipts of local MCP servers and tool calls

`record_local_mcp_server_runtime` and `record_local_mcp_tool_call` look at the operation, search the journal and append
their receipt, each under a lock of its own. Any number of calls and any other records go on in between.

* `ReceiptCall.check`, `ReceiptCall.scan`, `ReceiptCall.event` : what a call does under the three locks;
* `ReceiptsSound` : one receipt an operation, journalled while the operation is dispatched at the revision of the call;
* `receiptsSound_of_quiet` : it holds as long as nothing comes between the checks of a call and its append;
* `overlapping_receipts` : two calls that both pass the checks.
-/

namespace HyperTerm.Daemon.McpReceipts
open HyperTerm.Protocol HyperTerm.Core HyperTerm.Lib

/-! ## The calls -/

inductive McpReceipt where
  | serverRuntime (receipt : LocalMcpServerRuntimeReceipt)
  | toolCall (receipt : LocalMcpToolCallReceipt)

def isServerRuntime : DomainEvent → Bool
  | .localMcpServerRuntimeRecorded _ => true
  | _ => false

def isToolCall : DomainEvent → Bool
  | .localMcpToolCallRecorded _ => true
  | _ => false

namespace McpReceipt

def payload : McpReceipt → DomainEvent
  | serverRuntime receipt => .localMcpServerRuntimeRecorded receipt
  | toolCall receipt => .localMcpToolCallRecorded receipt

/-- The events that record such a receipt. -/
def isKindOf : McpReceipt → DomainEvent → Bool
  | serverRuntime _ => isServerRuntime
  | toolCall _ => isToolCall

def invalid : McpReceipt → DaemonError
  | serverRuntime _ => .invalidLocalMcpRuntimeReceipt
  | toolCall _ => .invalidLocalMcpToolCallReceipt

/-- The receipt is of what the operation was allowed to do. -/
def isOf : McpReceipt → OperationRecord → Bool
  | serverRuntime receipt, operation =>
      match operation.action with
      | .mcpServerLaunch launch => operation.kind == .mcpServerLaunch && receipt.launch == launch
      | _ => false
  | toolCall receipt, operation =>
      match operation.action with
      | .mcpToolCall call => operation.kind == .mcpTool && receipt.call == call
      | _ => false

end McpReceipt

/-- `validated` is what `validate_local_mcp_runtime_receipt` or `validate_local_mcp_tool_call_receipt` says. -/
structure ReceiptCall where
  env : RecordEnv
  taskId : TaskId
  operationId : OperationId
  expectedRevision : Nat
  receipt : McpReceipt
  validated : Except DaemonError Unit

/-- The event records a receipt of this kind for the operation. -/
def McpReceipt.recordedBy (receipt : McpReceipt) (operationId : OperationId) (event : EventEnvelope) : Bool :=
  event.operationId = some operationId && receipt.isKindOf event.payload

def isProposal (taskId : TaskId) (operationId : OperationId) (event : EventEnvelope) : Bool :=
  event.taskId = taskId && event.operationId = some operationId &&
    match event.payload with
    | .operationProposed .. => true
    | _ => false

/-- The event records a server that offers the tool that is called. -/
def servesCall (taskId : TaskId) (call : LocalMcpToolCall) (event : EventEnvelope) : Bool :=
  match event.payload with
  | .localMcpServerRuntimeRecorded runtime =>
      event.taskId = taskId && runtime.launch.serverId == call.serverId &&
        runtime.runtimeIdentityDigest == call.runtimeIdentityDigest && runtime.catalogDigest == call.catalogDigest &&
        runtime.tools.any fun tool => tool.name == call.toolName && tool.contractDigest == call.toolContractDigest
  | _ => false

namespace ReceiptCall

/-- The first lock is held for the look at the operation. -/
def check (call : ReceiptCall) (operations : OperationReducer) : Except DaemonError Unit := do
  let operation ← okOr (operations.get call.operationId) (.operationNotFound call.operationId)
  validateOperationScope operation call.taskId call.expectedRevision
  if operation.state ≠ .dispatching then .error (.operationNotDispatching operation.state)
  else if call.receipt.isOf operation = false then .error call.receipt.invalid
  else call.validated

/-- The second lock is held for the search of the journal. It gives the events that the receipt refers to. -/
def scan (call : ReceiptCall) (events : List EventEnvelope) : Except DaemonError (EventId × EventId) := do
  if events.any fun event => event.taskId = call.taskId && call.receipt.recordedBy call.operationId event then
    .error call.receipt.invalid
  else
    let proposal ← okOr (events.find? (isProposal call.taskId call.operationId)) (.operationNotFound call.operationId)
    match call.receipt with
    | .serverRuntime _ => return (proposal.eventId, proposal.eventId)
    | .toolCall receipt =>
        let runtime ← okOr (events.reverse.find? (servesCall call.taskId receipt.call)) .localMcpRuntimeNotRecorded
        return (proposal.eventId, runtime.eventId)

def event (call : ReceiptCall) (causation correlation : EventId) : NewEvent where
  taskId := call.taskId
  runId := none
  operationId := some call.operationId
  causationId := some causation
  correlationId := some correlation
  payload := call.receipt.payload

end ReceiptCall

/-- Where a call is, and how long the journal was when it was checked and when it was scanned. -/
inductive CallPhase where
  | entered
  | checked (checkedAt : Nat)
  | scanned (checkedAt scannedAt : Nat) (causation correlation : EventId)
  | returned (result : Except DaemonError Unit)

/-- A receipt that was journalled, and the operation as it was then. -/
structure JournalledReceipt where
  call : ReceiptCall
  operation : Option OperationRecord

structure Receipts where
  authority : AuthorityState
  calls : List (ReceiptCall × CallPhase)
  journalled : List JournalledReceipt

namespace Receipts

def start : Receipts := ⟨emptyAuthority, [], []⟩

def events (s : Receipts) : List EventEnvelope := s.authority.journal.events

def checked (s : Receipts) (i : Nat) (call : ReceiptCall) : Receipts :=
  { s with calls := s.calls.set i (call,
      match call.check s.authority.operations with
      | .ok () => .checked s.events.length
      | .error e => .returned (.error e)) }

def scanned (s : Receipts) (i : Nat) (call : ReceiptCall) (checkedAt : Nat) : Receipts :=
  { s with calls := s.calls.set i (call,
      match call.scan s.events with
      | .ok (causation, correlation) => .scanned checkedAt s.events.length causation correlation
      | .error e => .returned (.error e)) }

/-- The end of a call whose append had this result. -/
def appended (s : Receipts) (i : Nat) (call : ReceiptCall) (authority : AuthorityState) :
    Except DaemonError Unit → Receipts
  | .ok () =>
      { authority
        calls := s.calls.set i (call, .returned (.ok ()))
        journalled := s.journalled ++ [⟨call, s.authority.operations.get call.operationId⟩] }
  | .error e => { s with authority, calls := s.calls.set i (call, .returned (.error e)) }

end Receipts

def isReceipt (payload : DomainEvent) : Bool := isServerRuntime payload || isToolCall payload

/-- The event moves the operation to another state. -/
def movesOperation (operationId : OperationId) (event : EventEnvelope) : Bool :=
  event.operationId = some operationId &&
    match event.payload with
    | .operationStateChanged .. => true
    | _ => false

/-- A step of a call, or any other record. `admitted` restricts the appends that succeed. -/
inductive ReceiptStep (C : LineCodec EventEnvelope) (D : Digests)
    (admitted : Receipts → ReceiptCall → (checkedAt scannedAt : Nat) → Prop) : Receipts → Receipts → Prop
  | called {s : Receipts} (call : ReceiptCall) :
      ReceiptStep C D admitted s { s with calls := s.calls ++ [(call, .entered)] }
  | checked {s : Receipts} {i : Nat} {call : ReceiptCall} (h : s.calls[i]? = some (call, .entered)) :
      ReceiptStep C D admitted s (s.checked i call)
  | scanned {s : Receipts} {i : Nat} {call : ReceiptCall} {checkedAt : Nat}
      (h : s.calls[i]? = some (call, .checked checkedAt)) : ReceiptStep C D admitted s (s.scanned i call checkedAt)
  | appended {s : Receipts} {i : Nat} {call : ReceiptCall} {checkedAt scannedAt : Nat} {causation correlation : EventId}
      (h : s.calls[i]? = some (call, .scanned checkedAt scannedAt causation correlation))
      (hadmitted : (∃ x, (s.authority.record C D call.env (call.event causation correlation)).2 = .ok x) →
        admitted s call checkedAt scannedAt) :
      ReceiptStep C D admitted s (s.appended i call
        (s.authority.record C D call.env (call.event causation correlation)).1
        ((s.authority.record C D call.env (call.event causation correlation)).2.map fun _ => ()))
  | other {s : Receipts} (env : RecordEnv) (event : NewEvent) (h : isReceipt event.payload = false) :
      ReceiptStep C D admitted s { s with authority := (s.authority.record C D env event).1 }

/-- Since the check of the call its operation has not moved, and since the search no such receipt was journalled. -/
def Quiet (s : Receipts) (call : ReceiptCall) (checkedAt scannedAt : Nat) : Prop :=
  (∀ event ∈ s.events.drop checkedAt, movesOperation call.operationId event = false) ∧
    ∀ event ∈ s.events.drop scannedAt, call.receipt.recordedBy call.operationId event = false

instance (s : Receipts) (call : ReceiptCall) (checkedAt scannedAt : Nat) : Decidable (Quiet s call checkedAt scannedAt) :=
  inferInstanceAs (Decidable (_ ∧ _))

/-- What the calls should guarantee. -/
structure ReceiptsSound (s : Receipts) : Prop where
  /-- Every receipt in the journal is from a call. -/
  calls : (s.events.filter fun event => isReceipt event.payload).map (fun event => (event.operationId, event.payload)) =
    s.journalled.map fun j => (some j.call.operationId, j.call.receipt.payload)
  once : ∀ receipt : McpReceipt, ∀ operationId, s.events.countP (receipt.recordedBy operationId) ≤ 1
  dispatching : ∀ j ∈ s.journalled, ∃ operation, j.operation = some operation ∧ operation.state = .dispatching ∧
    operation.revision = j.call.expectedRevision

/-! ## What a record does -/

section Records

variable {C : LineCodec EventEnvelope} {D : Digests}

/-- A record adds its event to the journal, or nothing changes but the bytes of the file. -/
theorem record_events (C : LineCodec EventEnvelope) (D : Digests) (a : AuthorityState) (env : RecordEnv) (event : NewEvent) :
    ((a.record C D env event).1.journal.events = a.journal.events ∧ (a.record C D env event).1.operations = a.operations ∧
      ∃ e, (a.record C D env event).2 = .error e) ∨
    ∃ envelope patch, (a.record C D env event).2 = .ok (envelope, patch) ∧
      (a.record C D env event).1.journal.events = a.journal.events ++ [envelope] ∧
      a.operations.apply envelope = .ok (a.record C D env event).1.operations ∧
      envelope.taskId = event.taskId ∧ envelope.operationId = event.operationId ∧ envelope.payload = event.payload := by
  have houtcome := AuthorityState.record_outcome (C := C) (D := D) a env event
  generalize (a.record C D env event).1 = a' at houtcome ⊢
  generalize (a.record C D env event).2 = result at houtcome ⊢
  cases houtcome with
  | refused e => exact Or.inl ⟨rfl, rfl, e, rfl⟩
  | ioFailed file _ => exact Or.inl ⟨rfl, rfl, _, rfl⟩
  | recorded envelope operations projector patch henv _ hops =>
      exact Or.inr ⟨envelope, patch, rfl, rfl, hops, henv.taskId, henv.operationId, henv.payload⟩

/-- An operation stays where it is unless an event moves it. -/
theorem apply_unmoved {operations operations' : OperationReducer} {event : EventEnvelope} {id : OperationId}
    {r : OperationRecord} (happly : operations.apply event = .ok operations') (hmoves : movesOperation id event = false)
    (hget : operations.get id = some r) :
    ∃ r', operations'.get id = some r' ∧ r'.taskId = r.taskId ∧ r'.state = r.state ∧ r'.revision = r.revision := by
  have hid := OperationReducer.operationId_eq_of_get hget
  cases OperationReducer.apply_cases happly with
  | proposed record _ _ _ _ _ _ _ _ hfresh =>
      refine ⟨r, ?_, rfl, rfl, rfl⟩
      rw [OperationReducer.get_put, if_neg, hget]
      rintro rfl
      rw [hget] at hfresh
      cases hfresh
  | moved record toState _ _ hpayload hevent =>
      refine ⟨r, ?_, rfl, rfl, rfl⟩
      rw [OperationReducer.get_put, if_neg, hget]
      rintro rfl
      unfold movesOperation at hmoves
      rw [hpayload, hevent] at hmoves
      simp at hmoves
  | requested => exact ⟨r, hget, rfl, rfl, rfl⟩
  | decided record decision _ _ _ hget' =>
      by_cases heq : id = record.operationId
      · rw [heq, hget'] at hget
        obtain rfl := Option.some.inj hget
        refine ⟨{ record with permissionDecision := some decision }, ?_, rfl, rfl, rfl⟩
        rw [OperationReducer.get_put, if_pos heq]
      · exact ⟨r, by rw [OperationReducer.get_put, if_neg heq, hget], rfl, rfl, rfl⟩
  | other => exact ⟨r, hget, rfl, rfl, rfl⟩

theorem recordedBy_isReceipt {receipt : McpReceipt} {id : OperationId} {event : EventEnvelope}
    (h : receipt.recordedBy id event = true) : event.operationId = some id ∧ isReceipt event.payload = true := by
  obtain ⟨hid, hkind⟩ := Bool.and_eq_true_iff.mp h
  refine ⟨of_decide_eq_true hid, ?_⟩
  unfold isReceipt
  cases receipt with
  | serverRuntime _ => exact Bool.or_eq_true_iff.mpr (Or.inl hkind)
  | toolCall _ => exact Bool.or_eq_true_iff.mpr (Or.inr hkind)

/-- An event that this receipt is journalled with is one of its kind. -/
theorem recordedBy_eq {receipt receipt' : McpReceipt} {id id' : OperationId} {event : EventEnvelope}
    (hid : event.operationId = some id) (hpayload : event.payload = receipt.payload)
    (hrecorded : receipt'.recordedBy id' event = true) : receipt'.recordedBy id' = receipt.recordedBy id := by
  obtain ⟨hid', hkind⟩ := Bool.and_eq_true_iff.mp hrecorded
  obtain rfl := Option.some.inj (hid.symm.trans (of_decide_eq_true hid'))
  rw [hpayload] at hkind
  unfold McpReceipt.recordedBy
  cases receipt <;> cases receipt' <;> first | rfl | cases hkind

theorem isReceipt_payload (receipt : McpReceipt) : isReceipt receipt.payload = true := by
  cases receipt <;> rfl

theorem not_moves_of_isReceipt {event : EventEnvelope} (h : isReceipt event.payload = true) (id : OperationId) :
    movesOperation id event = false := by
  unfold movesOperation
  split
  · rename_i hpayload
    rw [hpayload] at h
    cases h
  · exact Bool.and_false _

end Records

/-! ## The invariant -/

/-- The operation was dispatched at the revision of the call when the journal had this length, and has not moved since
unless the journal says so. -/
structure Seen (a : AuthorityState) (call : ReceiptCall) (checkedAt : Nat) : Prop where
  le : checkedAt ≤ a.journal.events.length
  operation : (∀ event ∈ a.journal.events.drop checkedAt, movesOperation call.operationId event = false) →
    ∃ r, a.operations.get call.operationId = some r ∧ r.taskId = call.taskId ∧ r.state = .dispatching ∧
      r.revision = call.expectedRevision

/-- No receipt of the kind was in the journal when it had this length. -/
structure Absent (a : AuthorityState) (call : ReceiptCall) (scannedAt : Nat) : Prop where
  le : scannedAt ≤ a.journal.events.length
  receipt : ∀ event ∈ a.journal.events.take scannedAt, event.taskId = call.taskId →
    call.receipt.recordedBy call.operationId event = false

def CallInv (a : AuthorityState) (call : ReceiptCall) : CallPhase → Prop
  | .entered | .returned _ => True
  | .checked checkedAt => Seen a call checkedAt
  | .scanned checkedAt scannedAt _ _ => Seen a call checkedAt ∧ Absent a call scannedAt

structure ReceiptsInv (s : Receipts) : Prop where
  sound : ReceiptsSound s
  calls : ∀ p ∈ s.calls, CallInv s.authority p.1 p.2
  /-- A receipt is journalled for the task of its operation. -/
  tasks : ∀ event ∈ s.events, isReceipt event.payload = true → ∀ id, event.operationId = some id →
    ∃ r, s.authority.operations.get id = some r ∧ r.taskId = event.taskId

section Invariant

variable {C : LineCodec EventEnvelope} {D : Digests} {s s' : Receipts} {a a' : AuthorityState} {call : ReceiptCall}
  {phase : CallPhase} {i n : Nat} {envelope : EventEnvelope}

theorem seen_append (h : Seen a call n) (hevents : a'.journal.events = a.journal.events ++ [envelope])
    (happly : a.operations.apply envelope = .ok a'.operations) : Seen a' call n := by
  refine ⟨?_, fun hquiet => ?_⟩
  · rw [hevents, List.length_append]
    exact Nat.le_add_right_of_le h.le
  · rw [hevents, List.drop_append_of_le_length h.le] at hquiet
    obtain ⟨r, hget, htask, hstate, hrevision⟩ := h.operation fun event hmem => hquiet event (List.mem_append_left _ hmem)
    have hmoves := hquiet envelope (List.mem_append_right _ (List.mem_singleton_self _))
    obtain ⟨r', hget', htask', hstate', hrevision'⟩ := apply_unmoved happly hmoves hget
    exact ⟨r', hget', htask'.trans htask, hstate'.trans hstate, hrevision'.trans hrevision⟩

theorem absent_append (h : Absent a call n) (hevents : a'.journal.events = a.journal.events ++ [envelope]) :
    Absent a' call n := by
  refine ⟨?_, ?_⟩
  · rw [hevents, List.length_append]
    exact Nat.le_add_right_of_le h.le
  · rw [hevents, List.take_append_of_le_length h.le]
    exact h.receipt

theorem callInv_append (h : CallInv a call phase) (hevents : a'.journal.events = a.journal.events ++ [envelope])
    (happly : a.operations.apply envelope = .ok a'.operations) : CallInv a' call phase := by
  cases phase with
  | entered | returned _ => trivial
  | checked _ => exact seen_append h hevents happly
  | scanned _ _ _ _ => exact ⟨seen_append h.1 hevents happly, absent_append h.2 hevents⟩

theorem callInv_same (h : CallInv a call phase) (hevents : a'.journal.events = a.journal.events)
    (hoperations : a'.operations = a.operations) : CallInv a' call phase := by
  cases phase with
  | entered | returned _ => trivial
  | checked _ => exact ⟨hevents ▸ h.le, by rw [hevents, hoperations]; exact h.operation⟩
  | scanned _ _ _ _ =>
      refine ⟨⟨hevents ▸ h.1.le, ?_⟩, hevents ▸ h.2.le, ?_⟩
      · rw [hevents, hoperations]
        exact h.1.operation
      · rw [hevents]
        exact h.2.receipt

theorem seen_check (hcheck : call.check a.operations = .ok ()) : Seen a call a.journal.events.length := by
  refine ⟨Nat.le_refl _, fun _ => ?_⟩
  obtain ⟨r, hget, hrest⟩ := bind_eq_ok.mp hcheck
  obtain ⟨_, hscope, hrest⟩ := bind_eq_ok.mp hrest
  obtain ⟨htask, hrevision⟩ := validateOperationScope_eq_ok hscope
  refine ⟨r, okOr_eq_ok.mp hget, htask, ?_, hrevision⟩
  by_contra hstate
  rw [if_pos hstate] at hrest
  cases hrest

theorem absent_scan {ids : EventId × EventId} (hscan : call.scan a.journal.events = .ok ids) :
    Absent a call a.journal.events.length := by
  refine ⟨Nat.le_refl _, fun event hmem htask => ?_⟩
  rw [List.take_length] at hmem
  unfold ReceiptCall.scan at hscan
  split_ifs at hscan with hany
  refine Bool.eq_false_iff.mpr fun hrecorded => hany ?_
  rw [List.any_eq_true]
  exact ⟨event, hmem, Bool.and_eq_true_iff.mpr ⟨decide_eq_true htask, hrecorded⟩⟩

namespace ReceiptsInv

theorem start : ReceiptsInv .start where
  sound := ⟨rfl, fun _ _ => Nat.zero_le _, fun _ h => absurd h List.not_mem_nil⟩
  calls _ h := absurd h List.not_mem_nil
  tasks _ h := absurd h List.not_mem_nil

/-- One call goes on, and the authority is as it was. -/
theorem set_call (hinv : ReceiptsInv s) (call : ReceiptCall) (phase : CallPhase) (hphase : CallInv s.authority call phase)
    (i : Nat) :
    ReceiptsInv { s with calls := s.calls.set i (call, phase) } := by
  refine ⟨⟨hinv.sound.calls, hinv.sound.once, hinv.sound.dispatching⟩, fun p hp => ?_, hinv.tasks⟩
  obtain hp | rfl := List.mem_or_eq_of_mem_set hp
  · exact hinv.calls p hp
  · exact hphase

/-- Only the bytes of the journal file change. -/
theorem refused (hinv : ReceiptsInv s) (hevents : a.journal.events = s.events) (hoperations : a.operations = s.authority.operations) :
    ReceiptsInv { s with authority := a } := by
  refine ⟨⟨?_, ?_, hinv.sound.dispatching⟩, fun p hp => callInv_same (hinv.calls p hp) hevents hoperations, ?_⟩
  · show (a.journal.events.filter _).map _ = _
    rw [hevents]
    exact hinv.sound.calls
  · show ∀ receipt : McpReceipt, ∀ id, a.journal.events.countP _ ≤ 1
    rw [hevents]
    exact hinv.sound.once
  · show ∀ event ∈ a.journal.events, _ → ∀ id, _ → ∃ r, a.operations.get id = some r ∧ _
    rw [hevents, hoperations]
    exact hinv.tasks

theorem tasks_append (hinv : ReceiptsInv s) (hevents : a.journal.events = s.events ++ [envelope])
    (happly : s.authority.operations.apply envelope = .ok a.operations)
    (hnew : isReceipt envelope.payload = true → ∀ id, envelope.operationId = some id →
      ∃ r, s.authority.operations.get id = some r ∧ r.taskId = envelope.taskId) :
    ∀ event ∈ a.journal.events, isReceipt event.payload = true → ∀ id, event.operationId = some id →
      ∃ r, a.operations.get id = some r ∧ r.taskId = event.taskId := by
  have hextends := OperationReducer.apply_extends happly
  intro event hmem hreceipt id hid
  have hbefore : ∃ r, s.authority.operations.get id = some r ∧ r.taskId = event.taskId := by
    rw [hevents] at hmem
    obtain hmem | hmem := List.mem_append.mp hmem
    · exact hinv.tasks event hmem hreceipt id hid
    · obtain rfl := List.mem_singleton.mp hmem
      exact hnew hreceipt id hid
  obtain ⟨r, hget, htask⟩ := hbefore
  obtain ⟨r', hget', hprecedes⟩ := hextends id r hget
  exact ⟨r', hget', hprecedes.taskId.trans htask⟩

/-- A record that is not a receipt. -/
theorem other (hinv : ReceiptsInv s) {env : RecordEnv} {event : NewEvent} (hevent : isReceipt event.payload = false) :
    ReceiptsInv { s with authority := (s.authority.record C D env event).1 } := by
  obtain ⟨hevents, hoperations, -⟩ | ⟨envelope, patch, -, hevents, happly, -, -, hpayload⟩ :=
    record_events C D s.authority env event
  · exact hinv.refused hevents hoperations
  · have hnot : isReceipt envelope.payload = false := hpayload ▸ hevent
    refine ⟨⟨?_, fun receipt id => ?_, hinv.sound.dispatching⟩,
      fun p hp => callInv_append (hinv.calls p hp) hevents happly,
      hinv.tasks_append hevents happly fun h => absurd (hnot.symm.trans h) Bool.false_ne_true⟩
    · show (((s.authority.record C D env event).1.journal.events).filter _).map _ = _
      rw [hevents, List.filter_append, List.filter_cons_of_neg (by rw [hnot]; exact Bool.false_ne_true), List.filter_nil,
        List.append_nil]
      exact hinv.sound.calls
    · show (s.authority.record C D env event).1.journal.events.countP _ ≤ 1
      rw [hevents, List.countP_append, List.countP_cons_of_neg, List.countP_nil]
      · exact hinv.sound.once receipt id
      · exact fun h => Bool.false_ne_true (hnot.symm.trans (recordedBy_isReceipt h).2)

/-- A receipt that comes while all is as the call found it is the first, and the operation is dispatched. -/
theorem appended (hinv : ReceiptsInv s) {checkedAt scannedAt : Nat} {causation correlation : EventId}
    (hcall : s.calls[i]? = some (call, .scanned checkedAt scannedAt causation correlation))
    (hquiet : (∃ x, (s.authority.record C D call.env (call.event causation correlation)).2 = .ok x) →
      Quiet s call checkedAt scannedAt) :
    ReceiptsInv (s.appended i call (s.authority.record C D call.env (call.event causation correlation)).1
      ((s.authority.record C D call.env (call.event causation correlation)).2.map fun _ => ())) := by
  obtain ⟨hseen, habsent⟩ : Seen s.authority call checkedAt ∧ Absent s.authority call scannedAt :=
    hinv.calls _ (List.mem_of_getElem? hcall)
  obtain ⟨hevents, hoperations, e, hresult⟩ | ⟨envelope, patch, hresult, hevents, happly, htask, hid, hpayload⟩ :=
    record_events C D s.authority call.env (call.event causation correlation)
  · rw [hresult]
    exact (hinv.refused hevents hoperations).set_call call (.returned (.error e)) trivial i
  · obtain ⟨hmoves, hnone⟩ := hquiet ⟨_, hresult⟩
    obtain ⟨r, hget, hrtask, hstate, hrevision⟩ := hseen.operation hmoves
    rw [hresult]
    generalize (s.authority.record C D call.env (call.event causation correlation)).1 = a at hevents happly ⊢
    have hid' : envelope.operationId = some call.operationId := hid
    have hpayload' : envelope.payload = call.receipt.payload := hpayload
    have hreceipt : isReceipt envelope.payload = true := hpayload' ▸ isReceipt_payload call.receipt
    have htask' : r.taskId = envelope.taskId := hrtask.trans htask.symm
    -- an earlier receipt of this kind would be of the same task, so that the search would have found it
    have hfirst : ∀ event ∈ s.events, call.receipt.recordedBy call.operationId event = false := by
      intro event hmem
      rw [← List.take_append_drop scannedAt s.events] at hmem
      obtain hmem | hmem := List.mem_append.mp hmem
      · refine Bool.eq_false_iff.mpr fun hrecorded => ?_
        obtain ⟨hevent, hkind⟩ := recordedBy_isReceipt hrecorded
        obtain ⟨r', hget', hevent'⟩ := hinv.tasks event (List.mem_of_mem_take hmem) hkind _ hevent
        rw [hget] at hget'
        obtain rfl := Option.some.inj hget'
        have habsent' := habsent.receipt event hmem (hevent'.symm.trans hrtask)
        exact Bool.false_ne_true (habsent'.symm.trans hrecorded)
      · exact hnone event hmem
    refine ⟨⟨?_, fun receipt id => ?_, fun j hj => ?_⟩, fun p hp => ?_, ?_⟩
    · show (a.journal.events.filter _).map _ = (s.journalled ++ [_]).map _
      have hfilter : [envelope].filter (fun event => isReceipt event.payload) = [envelope] :=
        List.filter_cons_of_pos (l := []) hreceipt
      rw [hevents, List.filter_append, List.map_append, List.map_append, hfilter]
      refine congrArg₂ _ hinv.sound.calls ?_
      rw [List.map_singleton, List.map_singleton, hid', hpayload']
    · show a.journal.events.countP _ ≤ 1
      rw [hevents, List.countP_append]
      by_cases hsame : receipt.recordedBy id envelope = true
      · have hzero : s.events.countP (receipt.recordedBy id) = 0 := by
          refine List.countP_eq_zero.mpr fun event hmem hrecorded => ?_
          have hfirst' := hfirst event hmem
          rw [recordedBy_eq hid' hpayload' hsame] at hrecorded
          exact Bool.false_ne_true (hfirst'.symm.trans hrecorded)
        rw [List.countP_singleton, if_pos hsame]
        exact (congrArg (· + 1) hzero).le
      · rw [List.countP_singleton, if_neg hsame]
        exact hinv.sound.once receipt id
    · obtain hj | hj := List.mem_append.mp hj
      · exact hinv.sound.dispatching j hj
      · obtain rfl := List.mem_singleton.mp hj
        exact ⟨r, hget, hstate, hrevision⟩
    · obtain hp | rfl := List.mem_or_eq_of_mem_set hp
      · exact callInv_append (hinv.calls p hp) hevents happly
      · trivial
    · refine hinv.tasks_append hevents happly fun _ id hid'' => ?_
      obtain rfl := Option.some.inj (hid'.symm.trans hid'')
      exact ⟨r, hget, htask'⟩

theorem step (hinv : ReceiptsInv s) (hstep : ReceiptStep C D Quiet s s') : ReceiptsInv s' := by
  cases hstep with
  | called call =>
      refine ⟨⟨hinv.sound.calls, hinv.sound.once, hinv.sound.dispatching⟩, fun p hp => ?_, hinv.tasks⟩
      obtain hp | hp := List.mem_append.mp hp
      · exact hinv.calls p hp
      · rw [List.mem_singleton.mp hp]
        trivial
  | @checked i call h =>
      refine hinv.set_call call _ ?_ i
      cases hcheck : call.check s.authority.operations with
      | error e => trivial
      | ok u => exact seen_check hcheck
  | @scanned i call checkedAt h =>
      have hseen : Seen s.authority call checkedAt := hinv.calls _ (List.mem_of_getElem? h)
      refine hinv.set_call call _ ?_ i
      cases hscan : call.scan s.events with
      | error e => trivial
      | ok ids => exact ⟨hseen, absent_scan hscan⟩
  | appended h hadmitted => exact hinv.appended h hadmitted
  | other env event h => exact hinv.other h

theorem run (hrun : Relation.ReflTransGen (ReceiptStep C D Quiet) .start s) : ReceiptsInv s := by
  induction hrun with
  | refl => exact start
  | tail _ hstep ih => exact ih.step hstep

end ReceiptsInv

end Invariant

/-! ## Runs without the bytes -/

inductive ReceiptMove where
  | call (call : ReceiptCall)
  /-- The next step of a call. -/
  | goOn (i : Nat)
  | other (call : RecordCall)

section DryRuns

variable {C : LineCodec EventEnvelope} {D : Digests} {check : Receipts → ReceiptCall → Nat → Nat → Bool}
  {admitted : Receipts → ReceiptCall → Nat → Nat → Prop} {s s' : Receipts} {a : AuthorityState}

/-- A step whose I/O, if any, succeeds. -/
def dryMove (D : Digests) (check : Receipts → ReceiptCall → Nat → Nat → Bool) (s : Receipts) : ReceiptMove → Option Receipts
  | .call call => some { s with calls := s.calls ++ [(call, .entered)] }
  | .goOn i =>
      match s.calls[i]? with
      | some (call, .entered) => some (s.checked i call)
      | some (call, .checked checkedAt) => some (s.scanned i call checkedAt)
      | some (call, .scanned checkedAt scannedAt causation correlation) =>
          if call.env.io = .done ∧ check s call checkedAt scannedAt = true then
            (dryRecord D s.authority ⟨call.env, call.event causation correlation⟩).toOption.map fun a =>
              s.appended i call a (.ok ())
          else none
      | _ => none
  | .other call =>
      if call.env.io = .done ∧ isReceipt call.event.payload = false then
        (dryRecord D s.authority call).toOption.map fun a => { s with authority := a }
      else none

def dryMoves (D : Digests) (check : Receipts → ReceiptCall → Nat → Nat → Bool) (moves : List ReceiptMove) : Option Receipts :=
  moves.foldlM (dryMove D check) .start

/-- The same but for the bytes of the journal file. -/
def withAuthority (s : Receipts) (a : AuthorityState) : Receipts := { s with authority := a }

theorem ok_of_toOption {α ε : Type} {r : Except ε α} {x : α} (h : r.toOption = some x) : r = .ok x := by
  cases r with
  | error e => cases h
  | ok y => exact congrArg _ (Option.some.inj h)

theorem checked_withAuthority (hsame : SameMemory a s.authority) (i : Nat) (call : ReceiptCall) :
    (withAuthority s a).checked i call = withAuthority (s.checked i call) a := by
  show Receipts.mk a _ _ = Receipts.mk a _ _
  unfold withAuthority Receipts.events
  dsimp only
  rw [hsame.operations, hsame.events]
  rfl

theorem scanned_withAuthority (hsame : SameMemory a s.authority) (i : Nat) (call : ReceiptCall) (checkedAt : Nat) :
    (withAuthority s a).scanned i call checkedAt = withAuthority (s.scanned i call checkedAt) a := by
  show Receipts.mk a _ _ = Receipts.mk a _ _
  unfold withAuthority Receipts.events
  dsimp only
  rw [hsame.events]
  rfl

theorem quiet_of_same (s : Receipts) (call : ReceiptCall) (checkedAt scannedAt : Nat) (a : AuthorityState)
    (hquiet : decide (Quiet s call checkedAt scannedAt) = true) (hsame : SameMemory a s.authority) :
    Quiet (withAuthority s a) call checkedAt scannedAt := by
  have hevents : (withAuthority s a).events = s.events := hsame.events
  unfold Quiet
  rw [hevents]
  exact of_decide_eq_true hquiet

/-- What a dry move stands for. -/
theorem step_of_dryMove (hcheck : ∀ s call checkedAt scannedAt a, check s call checkedAt scannedAt = true →
      SameMemory a s.authority → admitted (withAuthority s a) call checkedAt scannedAt)
    {move : ReceiptMove} (hsame : SameMemory a s.authority) (hmove : dryMove D check s move = some s')
    (hlen : ∀ e ∈ s'.events, (C.encode e).length ≤ maxEventLineBytes) :
    ∃ a', SameMemory a' s'.authority ∧ ReceiptStep C D admitted (withAuthority s a) (withAuthority s' a') := by
  cases move with
  | call call =>
      obtain rfl := Option.some.inj hmove
      exact ⟨a, hsame, .called call⟩
  | goOn i =>
      unfold dryMove at hmove
      dsimp only at hmove
      cases hcall : s.calls[i]? with
      | none =>
          rw [hcall] at hmove
          cases hmove
      | some p =>
          obtain ⟨call, phase⟩ := p
          rw [hcall] at hmove
          cases phase with
          | entered =>
              obtain rfl := Option.some.inj hmove
              refine ⟨a, hsame, ?_⟩
              rw [← checked_withAuthority hsame]
              exact .checked hcall
          | checked checkedAt =>
              obtain rfl := Option.some.inj hmove
              refine ⟨a, hsame, ?_⟩
              rw [← scanned_withAuthority hsame]
              exact .scanned hcall
          | scanned checkedAt scannedAt causation correlation =>
              dsimp only at hmove
              split_ifs at hmove with hready
              obtain ⟨b, hb, rfl⟩ := Option.map_eq_some_iff.mp hmove
              obtain ⟨a', envelope, patch, hrecord, hsame', -, -⟩ :=
                record_of_dryRecord hsame (ok_of_toOption hb) hready.1 hlen
              refine ⟨a', hsame', ?_⟩
              have hstep : ReceiptStep C D admitted (withAuthority s a) _ :=
                .appended hcall fun _ => hcheck s call checkedAt scannedAt a hready.2 hsame
              have hrecord' : (withAuthority s a).authority.record C D call.env (call.event causation correlation) =
                  (a', .ok (envelope, patch)) := hrecord
              rw [hrecord'] at hstep
              have hget : (withAuthority s a).authority.operations.get call.operationId =
                  s.authority.operations.get call.operationId := congrArg (·.get call.operationId) hsame.operations
              dsimp only [Except.map, Receipts.appended] at hstep
              rw [hget] at hstep
              exact hstep
          | returned result => cases hmove
  | other call =>
      unfold dryMove at hmove
      dsimp only at hmove
      split_ifs at hmove with hready
      obtain ⟨b, hb, rfl⟩ := Option.map_eq_some_iff.mp hmove
      obtain ⟨a', envelope, patch, hrecord, hsame', -, -⟩ :=
        record_of_dryRecord hsame (ok_of_toOption hb) hready.1 hlen
      refine ⟨a', hsame', ?_⟩
      have hstep : ReceiptStep C D admitted (withAuthority s a) _ := .other call.env call.event hready.2
      have hrecord' : (withAuthority s a).authority.record C D call.env call.event = (a', .ok (envelope, patch)) := hrecord
      rw [hrecord'] at hstep
      exact hstep

theorem dryMove_events {move : ReceiptMove} (h : dryMove D check s move = some s') : s.events <+: s'.events := by
  have hrecord : ∀ {call : RecordCall} {b : AuthorityState},
      (dryRecord D s.authority call).toOption = some b → s.events <+: b.journal.events := by
    intro call b hb
    obtain ⟨envelope, hevents⟩ := dryRecord_events (ok_of_toOption hb)
    exact hevents ▸ List.prefix_append _ _
  cases move with
  | call call =>
      obtain rfl := Option.some.inj h
      exact List.prefix_rfl
  | goOn i =>
      unfold dryMove at h
      dsimp only at h
      cases hcall : s.calls[i]? with
      | none =>
          rw [hcall] at h
          cases h
      | some p =>
          obtain ⟨call, phase⟩ := p
          rw [hcall] at h
          cases phase with
          | entered | checked _ =>
              obtain rfl := Option.some.inj h
              exact List.prefix_rfl
          | scanned _ _ _ _ =>
              dsimp only at h
              split_ifs at h
              obtain ⟨b, hb, rfl⟩ := Option.map_eq_some_iff.mp h
              exact hrecord hb
          | returned _ => cases h
  | other call =>
      unfold dryMove at h
      dsimp only at h
      split_ifs at h
      obtain ⟨b, hb, rfl⟩ := Option.map_eq_some_iff.mp h
      exact hrecord hb

theorem reaches_of_dryMoves (hcheck : ∀ s call checkedAt scannedAt a, check s call checkedAt scannedAt = true →
      SameMemory a s.authority → admitted (withAuthority s a) call checkedAt scannedAt)
    {moves : List ReceiptMove} (hmoves : dryMoves D check moves = some s')
    (hlen : ∀ e ∈ s'.events, (C.encode e).length ≤ maxEventLineBytes) :
    ∃ a', SameMemory a' s'.authority ∧ Relation.ReflTransGen (ReceiptStep C D admitted) .start (withAuthority s' a') := by
  induction moves using List.reverseRecOn generalizing s' with
  | nil =>
      obtain rfl := Option.some.inj hmoves
      exact ⟨emptyAuthority, .refl _, .refl⟩
  | append_singleton moves move ih =>
      unfold dryMoves at hmoves
      rw [List.foldlM_append] at hmoves
      obtain ⟨s₁, hbefore, hlast⟩ := Option.bind_eq_some_iff.mp hmoves
      have hmove : dryMove D check s₁ move = some s' := by
        rw [List.foldlM_cons] at hlast
        obtain ⟨s₂, hmove, hend⟩ := Option.bind_eq_some_iff.mp hlast
        obtain rfl := Option.some.inj hend
        exact hmove
      obtain ⟨a₁, hsame, hrun⟩ := ih hbefore fun e he => hlen e ((dryMove_events hmove).subset he)
      obtain ⟨a', hsame', hstep⟩ := step_of_dryMove hcheck hsame hmove hlen
      exact ⟨a', hsame', hrun.tail hstep⟩

end DryRuns

/-! ## Samples -/

def sampleRecord (sequence : Nat) (payload : DomainEvent) : ReceiptMove :=
  .other (sampleCall sequence (some sampleOperation) payload)

/-- A launch is proposed, allowed and dispatched. -/
def sampleDispatchedLaunch : List ReceiptMove :=
  [.other (sampleCall 1 none (.taskCreated "task")),
    sampleRecord 2 (.operationProposed 1 .mcpServerLaunch (.mcpServerLaunch sampleLaunch) "launch" .externalEffect []),
    sampleRecord 3 (.operationStateChanged 2 .proposed .policyCheck .policy none),
    sampleRecord 4 (.operationStateChanged 3 .policyCheck .waitingHuman .policy none),
    sampleRecord 5 (.permissionRequested 3 none "Allow this exact operation once?" [.allowOnce]),
    sampleRecord 6 (.permissionDecided 3 .allowOnce .user),
    sampleRecord 7 (.operationStateChanged 4 .waitingHuman .authorized .user none),
    sampleRecord 8 (.operationStateChanged 5 .authorized .dispatching .system none)]

def sampleReceiptCall (event : Nat) : ReceiptCall :=
  ⟨sampleEnv event, sampleTask, sampleOperation, 5, .serverRuntime sampleServerReceipt, .ok ()⟩

def isServerRuntimeOf (id : OperationId) (event : EventEnvelope) : Bool :=
  (McpReceipt.serverRuntime sampleServerReceipt).recordedBy id event

/-- The run of the daemon for the moves, with short lines for its events. -/
theorem reaches_of_sample {check : Receipts → ReceiptCall → Nat → Nat → Bool}
    {admitted : Receipts → ReceiptCall → Nat → Nat → Prop}
    (hcheck : ∀ s call checkedAt scannedAt a, check s call checkedAt scannedAt = true →
      SameMemory a s.authority → admitted (withAuthority s a) call checkedAt scannedAt)
    {moves : List ReceiptMove} {s' : Receipts} (hmoves : dryMoves sampleDigests check moves = some s')
    (hlen : s'.events.length ≤ maxEventLineBytes) :
    ∃ C a', a'.journal.events = s'.events ∧
      Relation.ReflTransGen (ReceiptStep C sampleDigests admitted) .start (withAuthority s' a') := by
  obtain ⟨a', hsame, hrun⟩ := reaches_of_dryMoves (C := .short s'.events) hcheck hmoves fun e he =>
    (LineCodec.length_short_encode_le _ he).trans hlen
  exact ⟨_, a', hsame.events, hrun⟩

/-! ## Every run -/

/-- **Main result.** However calls and other records interleave, as long as every receipt is journalled while its operation
has not moved since the check and no such receipt was journalled since the search, an operation journals one receipt of a
kind at most, and journals it while it is dispatched at the expected revision. -/
theorem receiptsSound_of_quiet (C : LineCodec EventEnvelope) (D : Digests) {s : Receipts}
    (hrun : Relation.ReflTransGen (ReceiptStep C D Quiet) .start s) : ReceiptsSound s := (ReceiptsInv.run hrun).sound

/-- One call, alone. -/
theorem receiptsSound_of_quiet_one_call :
    ∃ C s, Relation.ReflTransGen (ReceiptStep C sampleDigests Quiet) .start s ∧ s.journalled.length = 1 ∧
      ReceiptsSound s := by
  have hdry : (dryMoves sampleDigests (fun s call n k => Quiet s call n k)
      (sampleDispatchedLaunch ++ [.call (sampleReceiptCall 9), .goOn 0, .goOn 0, .goOn 0])).map
      (fun s => (s.journalled.length, s.events.length)) = some (1, 9) := by decide
  obtain ⟨s, hmoves, hobserved⟩ := Option.map_eq_some_iff.mp hdry
  obtain ⟨hone, hlength⟩ := Prod.mk.inj hobserved
  obtain ⟨C, a, -, hrun⟩ := reaches_of_sample quiet_of_same hmoves (by rw [hlength]; decide)
  exact ⟨C, _, hrun, hone, receiptsSound_of_quiet C sampleDigests hrun⟩

/-- Both calls search the journal before either appends. -/
theorem overlapping_receipts :
    ∃ C, ¬∀ s, Relation.ReflTransGen (ReceiptStep C sampleDigests fun _ _ _ _ => True) .start s → ReceiptsSound s := by
  have hdry : (dryMoves sampleDigests (fun _ _ _ _ => true)
      (sampleDispatchedLaunch ++ [.call (sampleReceiptCall 9), .call (sampleReceiptCall 10),
        .goOn 0, .goOn 0, .goOn 1, .goOn 1, .goOn 0, .goOn 1])).map
      (fun s => (s.events.countP (isServerRuntimeOf sampleOperation), s.events.length)) = some (2, 10) := by
    decide
  obtain ⟨s, hmoves, hobserved⟩ := Option.map_eq_some_iff.mp hdry
  obtain ⟨htwo, hlength⟩ := Prod.mk.inj hobserved
  obtain ⟨C, a, hevents, hrun⟩ := @reaches_of_sample _ (fun _ _ _ _ => True) (fun _ _ _ _ _ _ _ => trivial) _ _
    hmoves (by rw [hlength]; decide)
  refine ⟨C, fun h => ?_⟩
  have honce := (h _ hrun).once (.serverRuntime sampleServerReceipt) sampleOperation
  have hcount : (withAuthority s a).events.countP (isServerRuntimeOf sampleOperation) = 2 := by
    rw [← htwo]
    exact congrArg _ hevents
  exact absurd (hcount.symm.le.trans honce) (by decide)

end HyperTerm.Daemon.McpReceipts
