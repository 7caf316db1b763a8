import HyperTerm.Lib.Keyed
import HyperTerm.Lib.Result
import HyperTerm.Protocol.Event

/-!
# The operation reducer

`OperationReducer` folds the journal into one `OperationRecord` per operation: its revision, its state
and the permission decision. `validTransition` is the state machine of an operation.

`OperationReducer.apply_cases` says once what an accepted event can do to the records; every invariant of
operations is derived from it.
-/

namespace HyperTerm.Core
open HyperTerm.Protocol HyperTerm.Lib

inductive OperationError where
  | missingOperationId
  | alreadyExists (operationId : OperationId)
  | notFound (operationId : OperationId)
  | invalidInitialRevision (revision : Nat)
  | staleRevision (expected actual : Nat)
  | stateMismatch (expected actual : OperationState)
  | invalidTransition (fromState toState : OperationState)
  | permissionOutsideWaitingState (state : OperationState)
  | permissionAlreadyDecided (operationId : OperationId)
  deriving DecidableEq

structure OperationRecord where
  taskId : TaskId
  operationId : OperationId
  revision : Nat
  kind : OperationKind
  action : OperationAction
  summary : String
  risk : RiskClass
  requiredCapabilities : List String
  state : OperationState
  permissionDecision : Option PermissionDecision
  deriving DecidableEq

def validTransition : OperationState → OperationState → Bool
  | .proposed, .policyCheck => true
  | .policyCheck, .waitingHuman => true
  | .policyCheck, .authorized => true
  | .policyCheck, .failed => true
  | .policyCheck, .cancelled => true
  | .waitingHuman, .authorized => true
  | .waitingHuman, .cancelled => true
  | .authorized, .dispatching => true
  | .authorized, .failed => true
  | .authorized, .cancelled => true
  | .dispatching, .succeeded => true
  | .dispatching, .failed => true
  | .dispatching, .violated => true
  | .dispatching, .cancelled => true
  | .dispatching, .unknownExecution => true
  | .unknownExecution, .succeeded => true
  | .unknownExecution, .failed => true
  | .unknownExecution, .violated => true
  | .unknownExecution, .cancelled => true
  | _, _ => false

structure OperationReducer where
  records : Keyed OperationRecord.operationId

namespace OperationReducer

def new : OperationReducer := ⟨Keyed.empty⟩

def get (r : OperationReducer) (operationId : OperationId) : Option OperationRecord := r.records.get? operationId

/-- Stores a changed record, as the source does through `get_mut`. -/
def put (r : OperationReducer) (record : OperationRecord) : OperationReducer := ⟨r.records.put record⟩

def recordForEvent (r : OperationReducer) (event : EventEnvelope) : Except OperationError OperationRecord := do
  let operationId ← okOr event.operationId .missingOperationId
  okOr (r.get operationId) (.notFound operationId)

def apply (r : OperationReducer) (event : EventEnvelope) : Except OperationError OperationReducer :=
  match event.payload with
  | .operationProposed revision kind action summary risk requiredCapabilities => do
      let operationId ← okOr event.operationId .missingOperationId
      if revision ≠ 1 then .error (.invalidInitialRevision revision)
      else if (r.get operationId).isSome then .error (.alreadyExists operationId)
      else
        .ok (r.put { taskId := event.taskId, operationId, revision, kind, action, summary, risk,
                     requiredCapabilities, state := .proposed, permissionDecision := none })
  | .operationStateChanged revision fromState toState _ _ => do
      let record ← r.recordForEvent event
      if revision ≠ record.revision + 1 then .error (.staleRevision (record.revision + 1) revision)
      else if record.state ≠ fromState then .error (.stateMismatch record.state fromState)
      else if ¬validTransition fromState toState then .error (.invalidTransition fromState toState)
      else .ok (r.put { record with revision, state := toState })
  | .permissionRequested operationRevision _ _ _ => do
      let record ← r.recordForEvent event
      if record.state ≠ .waitingHuman then .error (.permissionOutsideWaitingState record.state)
      else if record.revision ≠ operationRevision then
        .error (.staleRevision record.revision operationRevision)
      else .ok r
  | .permissionDecided operationRevision decision _ => do
      let record ← r.recordForEvent event
      if record.state ≠ .waitingHuman then .error (.permissionOutsideWaitingState record.state)
      else if record.revision ≠ operationRevision then
        .error (.staleRevision record.revision operationRevision)
      else if record.permissionDecision.isSome then .error (.permissionAlreadyDecided record.operationId)
      else .ok (r.put { record with permissionDecision := some decision })
  | _ => .ok r

/-! ## What one event can do to the records -/

@[simp] theorem get_new (id : OperationId) : new.get id = none := rfl

@[simp] theorem get_put_self (r : OperationReducer) (record : OperationRecord) :
    (r.put record).get record.operationId = some record := r.records.get?_put_self record

theorem get_put (r : OperationReducer) (record : OperationRecord) (id : OperationId) :
    (r.put record).get id = if id = record.operationId then some record else r.get id :=
  r.records.get?_put record id

theorem operationId_eq_of_get {r : OperationReducer} {id : OperationId} {record : OperationRecord}
    (h : r.get id = some record) : record.operationId = id := Keyed.key_eq_of_get? h

theorem recordForEvent_eq_ok {r : OperationReducer} {event : EventEnvelope} {record : OperationRecord} :
    r.recordForEvent event = .ok record ↔
      event.operationId = some record.operationId ∧ r.get record.operationId = some record := by
  simp only [recordForEvent, bind_eq_ok, okOr_eq_ok]
  constructor
  · rintro ⟨id, hid, hget⟩
    obtain rfl := operationId_eq_of_get hget
    exact ⟨hid, hget⟩
  · exact fun h => ⟨_, h⟩

/-- The effect of an accepted event on the records. -/
inductive Change (r : OperationReducer) (event : EventEnvelope) : OperationReducer → Prop
  | proposed (record : OperationRecord) (kind : OperationKind) (action : OperationAction) (summary : String)
      (risk : RiskClass) (capabilities : List String)
      (hpayload : event.payload = .operationProposed 1 kind action summary risk capabilities)
      (hrecord : record = ⟨event.taskId, record.operationId, 1, kind, action, summary, risk, capabilities,
        .proposed, none⟩)
      (hid : event.operationId = some record.operationId) (hfresh : r.get record.operationId = none) :
      Change r event (r.put record)
  | moved (record : OperationRecord) (toState : OperationState) (actor : Actor) (reason : Option String)
      (hpayload : event.payload =
        .operationStateChanged (record.revision + 1) record.state toState actor reason)
      (hid : event.operationId = some record.operationId) (hget : r.get record.operationId = some record)
      (hvalid : validTransition record.state toState = true) :
      Change r event (r.put { record with revision := record.revision + 1, state := toState })
  | requested (record : OperationRecord) (approval : Option BoundApprovalDetail) (prompt : String)
      (options : List PermissionDecision)
      (hpayload : event.payload = .permissionRequested record.revision approval prompt options)
      (hid : event.operationId = some record.operationId) (hget : r.get record.operationId = some record)
      (hstate : record.state = .waitingHuman) : Change r event r
  | decided (record : OperationRecord) (decision : PermissionDecision) (actor : Actor)
      (hpayload : event.payload = .permissionDecided record.revision decision actor)
      (hid : event.operationId = some record.operationId) (hget : r.get record.operationId = some record)
      (hstate : record.state = .waitingHuman) (hnone : record.permissionDecision = none) :
      Change r event (r.put { record with permissionDecision := some decision })
  | other (hproposed : ∀ rev k a s ri c, event.payload ≠ .operationProposed rev k a s ri c)
      (hmoved : ∀ rev f t a re, event.payload ≠ .operationStateChanged rev f t a re)
      (hrequested : ∀ rev a p o, event.payload ≠ .permissionRequested rev a p o)
      (hdecided : ∀ rev d a, event.payload ≠ .permissionDecided rev d a) : Change r event r

theorem apply_cases {r r' : OperationReducer} {event : EventEnvelope} (h : r.apply event = .ok r') :
    r.Change event r' := by
  unfold apply at h
  split at h
  case h_1 revision kind action summary risk capabilities hpayload =>
    simp only [bind_eq_ok, okOr_eq_ok] at h
    obtain ⟨id, hid, h⟩ := h
    split_ifs at h with hrev hsome
    obtain rfl := Except.ok.inj h
    obtain rfl := not_not.mp hrev
    exact .proposed _ kind action summary risk capabilities hpayload rfl hid (by simpa using hsome)
  case h_2 revision fromState toState actor reason hpayload =>
    simp only [bind_eq_ok, recordForEvent_eq_ok] at h
    obtain ⟨record, ⟨hid, hget⟩, h⟩ := h
    split_ifs at h with hrev hstate hvalid
    obtain rfl := Except.ok.inj h
    obtain rfl := not_not.mp hrev
    obtain rfl := not_not.mp hstate
    exact .moved record toState actor reason hpayload hid hget hvalid
  case h_3 revision approval prompt options hpayload =>
    simp only [bind_eq_ok, recordForEvent_eq_ok] at h
    obtain ⟨record, ⟨hid, hget⟩, h⟩ := h
    split_ifs at h with hstate hrev
    obtain rfl := Except.ok.inj h
    obtain rfl := not_not.mp hrev
    exact .requested record approval prompt options hpayload hid hget (not_not.mp hstate)
  case h_4 revision decision actor hpayload =>
    simp only [bind_eq_ok, recordForEvent_eq_ok] at h
    obtain ⟨record, ⟨hid, hget⟩, h⟩ := h
    split_ifs at h with hstate hrev hsome
    obtain rfl := Except.ok.inj h
    obtain rfl := not_not.mp hrev
    exact .decided record decision actor hpayload hid hget (not_not.mp hstate) (by simpa using hsome)
  case h_5 h₁ h₂ h₃ h₄ =>
    obtain rfl := Except.ok.inj h
    exact .other h₁ h₂ h₃ h₄

/-! ## What is accepted -/

variable {r : OperationReducer} {event : EventEnvelope} {record : OperationRecord}

theorem apply_moved {toState : OperationState} {actor : Actor} {reason : Option String}
    (hpayload : event.payload = .operationStateChanged (record.revision + 1) record.state toState actor reason)
    (hid : event.operationId = some record.operationId) (hget : r.get record.operationId = some record)
    (hvalid : validTransition record.state toState = true) :
    r.apply event = .ok (r.put { record with revision := record.revision + 1, state := toState }) := by
  have hrecord := recordForEvent_eq_ok.mpr ⟨hid, hget⟩
  simp [apply, hpayload, hrecord, hvalid, bind, Except.bind]

theorem apply_decided_iff {decision : PermissionDecision} {actor : Actor}
    (hpayload : event.payload = .permissionDecided record.revision decision actor)
    (hid : event.operationId = some record.operationId) (hget : r.get record.operationId = some record) :
    (∃ r', r.apply event = .ok r') ↔ record.state = .waitingHuman ∧ record.permissionDecision = none := by
  have hrecord := recordForEvent_eq_ok.mpr ⟨hid, hget⟩
  by_cases hstate : record.state = .waitingHuman <;> cases hdecision : record.permissionDecision <;>
    simp [apply, hpayload, hrecord, hstate, hdecision, bind, Except.bind]

end OperationReducer

end HyperTerm.Core
