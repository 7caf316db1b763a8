import HyperTerm.Core.Operation
import Mathlib.Tactic.Tauto

/-!
# The life of an operation

* `OperationReducer.Extends` : what every accepted event leaves true of the records. Revisions grow, a state
  belongs to its revision, and a decision is final.
* `Governed` : the states that an operation enters are governed by its decision. The reducer alone does not
  keep it; `governed_apply` says what has to be known about an event for that (`Permitted`).
-/

namespace HyperTerm.Core
open HyperTerm.Protocol HyperTerm.Lib

def PermissionDecision.allows : PermissionDecision → Bool
  | .allowOnce | .allowAlways => true
  | .rejectOnce | .rejectAlways | .cancelled => false

/-- The decision on the operation lets it run. -/
def OperationRecord.allowed (r : OperationRecord) : Prop :=
  ∃ decision, r.permissionDecision = some decision ∧ PermissionDecision.allows decision = true

/-! ## Records over time -/

/-- What a record still says of the same operation later. -/
structure OperationRecord.Precedes (r r' : OperationRecord) : Prop where
  taskId : r'.taskId = r.taskId
  kind : r'.kind = r.kind
  action : r'.action = r.action
  revision : r.revision ≤ r'.revision
  state : r'.revision = r.revision → r'.state = r.state
  decision : ∀ decision, r.permissionDecision = some decision → r'.permissionDecision = some decision

namespace OperationRecord

theorem Precedes.refl (r : OperationRecord) : r.Precedes r := ⟨rfl, rfl, rfl, le_rfl, fun _ => rfl, fun _ h => h⟩

theorem Precedes.trans {r₁ r₂ r₃ : OperationRecord} (h₁ : r₁.Precedes r₂) (h₂ : r₂.Precedes r₃) :
    r₁.Precedes r₃ where
  taskId := h₂.taskId.trans h₁.taskId
  kind := h₂.kind.trans h₁.kind
  action := h₂.action.trans h₁.action
  revision := h₁.revision.trans h₂.revision
  state h := by
    have hle₁ := h₁.revision
    have hle₂ := h₂.revision
    exact (h₂.state (by omega)).trans (h₁.state (by omega))
  decision d h := h₂.decision d (h₁.decision d h)

theorem Precedes.allowed {r r' : OperationRecord} (h : r.Precedes r') (hr : r.allowed) : r'.allowed := by
  obtain ⟨decision, hdecision, hallows⟩ := hr
  exact ⟨decision, h.decision decision hdecision, hallows⟩

end OperationRecord

namespace OperationReducer

def Extends (r r' : OperationReducer) : Prop :=
  ∀ id record, r.get id = some record → ∃ record', r'.get id = some record' ∧ record.Precedes record'

theorem Extends.refl (r : OperationReducer) : r.Extends r := fun _ record h => ⟨record, h, .refl record⟩

theorem Extends.trans {r₁ r₂ r₃ : OperationReducer} (h₁ : r₁.Extends r₂) (h₂ : r₂.Extends r₃) :
    r₁.Extends r₃ := by
  intro id record hget
  obtain ⟨record₂, hget₂, hprec₂⟩ := h₁ id record hget
  obtain ⟨record₃, hget₃, hprec₃⟩ := h₂ id record₂ hget₂
  exact ⟨record₃, hget₃, hprec₂.trans hprec₃⟩

theorem extends_put {r : OperationReducer} {record : OperationRecord}
    (h : ∀ old, r.get record.operationId = some old → old.Precedes record) : r.Extends (r.put record) := by
  intro id old hget
  by_cases hid : id = record.operationId
  · subst hid
    exact ⟨record, r.get_put_self record, h old hget⟩
  · exact ⟨old, by rw [get_put, if_neg hid, hget], .refl old⟩

/-- Every accepted event extends the records. -/
theorem apply_extends {r r' : OperationReducer} {event : EventEnvelope} (h : r.apply event = .ok r') :
    r.Extends r' := by
  cases apply_cases h with
  | proposed record _ _ _ _ _ _ _ _ hfresh =>
      refine extends_put fun old hold => ?_
      rw [hfresh] at hold
      exact nomatch hold
  | moved record toState _ _ _ _ hget hvalid =>
      refine extends_put fun old hold => ?_
      obtain rfl : record = old := Option.some.inj (hget.symm.trans hold)
      exact ⟨rfl, rfl, rfl, Nat.le_succ _, fun hrev => absurd hrev (Nat.succ_ne_self _), fun _ h => h⟩
  | requested => exact .refl r
  | decided record decision _ _ _ hget _ hnone =>
      refine extends_put fun old hold => ?_
      obtain rfl : record = old := Option.some.inj (hget.symm.trans hold)
      refine ⟨rfl, rfl, rfl, le_rfl, fun _ => rfl, fun d hd => ?_⟩
      rw [hnone] at hd
      exact nomatch hd
  | other => exact .refl r

end OperationReducer

/-! ## Entries into a state -/

/-- The event moves the operation into the state. -/
def enters (id : OperationId) (state : OperationState) (event : EventEnvelope) : Bool :=
  match event.payload with
  | .operationStateChanged _ _ toState _ _ => event.operationId = some id && toState = state
  | _ => false

/-- How often the journal moves the operation into the state. -/
def entries (id : OperationId) (state : OperationState) (events : List EventEnvelope) : Nat :=
  events.countP (enters id state)

theorem entries_append (id : OperationId) (state : OperationState) (events : List EventEnvelope)
    (event : EventEnvelope) :
    entries id state (events ++ [event]) = entries id state events + if enters id state event then 1 else 0 := by
  rw [entries, List.countP_append, List.countP_singleton, entries]

theorem enters_of_moved {event : EventEnvelope} {revision : Nat} {fromState toState : OperationState}
    {actor : Actor} {reason : Option String} {id' : OperationId}
    (hpayload : event.payload = .operationStateChanged revision fromState toState actor reason)
    (hid : event.operationId = some id') (id : OperationId) (state : OperationState) :
    enters id state event = (decide (id = id') && decide (toState = state)) := by
  simp [enters, hpayload, hid, eq_comm]

theorem enters_of_not_moved {event : EventEnvelope}
    (h : ∀ rev f t a re, event.payload ≠ .operationStateChanged rev f t a re) (id : OperationId)
    (state : OperationState) : enters id state event = false := by
  unfold enters
  split
  case h_1 heq => exact absurd heq (h _ _ _ _ _)
  case h_2 => rfl

/-! ## Decisions and states -/

/-- Not yet authorized. -/
def OperationState.isPending : OperationState → Bool
  | .proposed | .policyCheck | .waitingHuman => true
  | _ => false

/-- Authorized, or past it without having been cancelled. -/
def OperationState.needsAllow : OperationState → Bool
  | .authorized | .dispatching | .succeeded | .failed | .violated | .unknownExecution => true
  | _ => false

/-- What decision, state and journal say of one operation. -/
structure RecordGoverned (events : List EventEnvelope) (id : OperationId) (r : OperationRecord) : Prop where
  needsAllow : OperationState.needsAllow r.state = true → r.allowed
  pending : OperationState.isPending r.state = true → entries id .authorized events = 0
  undispatched : OperationState.isPending r.state = true ∨ r.state = .authorized →
    entries id .dispatching events = 0
  once : entries id .dispatching events ≤ 1
  refused : ¬r.allowed → entries id .authorized events = 0 ∧ entries id .dispatching events = 0

/-- Every operation of the reducer is governed, and no other has been moved. -/
structure Governed (events : List EventEnvelope) (r : OperationReducer) : Prop where
  record : ∀ id record, r.get id = some record → RecordGoverned events id record
  unknown : ∀ id, r.get id = none → entries id .authorized events = 0 ∧ entries id .dispatching events = 0

/-- What the reducer does not check: only an allowed operation becomes authorized, and the policy check does not
fail an operation. -/
def Permitted (r : OperationRecord) (toState : OperationState) : Prop :=
  (toState = .authorized → r.allowed) ∧ (toState = .failed → r.state ≠ .policyCheck)

def EventPermitted (r : OperationReducer) (event : EventEnvelope) : Prop :=
  ∀ revision fromState toState actor reason id record,
    event.payload = .operationStateChanged revision fromState toState actor reason →
      event.operationId = some id → r.get id = some record → revision = record.revision + 1 →
        Permitted record toState

theorem governed_nil : Governed [] .new where
  record _ _ h := nomatch h
  unknown _ _ := ⟨rfl, rfl⟩

theorem needsAllow_of_validTransition {fromState toState : OperationState}
    (h : validTransition fromState toState = true) (hto : OperationState.needsAllow toState = true) :
    toState = .authorized ∨ toState = .failed ∧ fromState = .policyCheck ∨
      OperationState.needsAllow fromState = true := by
  cases fromState <;> cases toState <;> simp_all [validTransition, OperationState.needsAllow]

/-- Nothing past the authorization leads back before it. -/
theorem isPending_of_validTransition {fromState toState : OperationState}
    (h : validTransition fromState toState = true)
    (hto : OperationState.isPending toState = true ∨ toState = .authorized) :
    OperationState.isPending fromState = true := by
  cases fromState <;> cases toState <;> simp_all [validTransition, OperationState.isPending]

theorem authorized_of_validTransition {fromState : OperationState}
    (h : validTransition fromState .dispatching = true) : fromState = .authorized := by
  cases fromState <;> simp_all [validTransition]

/-- An event that moves no operation leaves what the journal says of each. -/
theorem RecordGoverned.of_entries {events events' : List EventEnvelope} {id : OperationId} {r : OperationRecord}
    (h : RecordGoverned events id r) (hentries : ∀ state, entries id state events' = entries id state events) :
    RecordGoverned events' id r where
  needsAllow := h.needsAllow
  pending hs := hentries _ ▸ h.pending hs
  undispatched hs := hentries _ ▸ h.undispatched hs
  once := hentries _ ▸ h.once
  refused hr := hentries .authorized ▸ hentries .dispatching ▸ h.refused hr

theorem RecordGoverned.moved {events events' : List EventEnvelope} {id : OperationId} {r : OperationRecord}
    {toState : OperationState} (h : RecordGoverned events id r) (hvalid : validTransition r.state toState = true)
    (hpermitted : Permitted r toState)
    (hentries : ∀ state, entries id state events' = entries id state events + if toState = state then 1 else 0) :
    RecordGoverned events' id { r with revision := r.revision + 1, state := toState } := by
  obtain ⟨hauthorized, hfailed⟩ := hpermitted
  have hallowed : OperationState.needsAllow toState = true → r.allowed := by
    intro hto
    rcases needsAllow_of_validTransition hvalid hto with hto | ⟨hto, hstate⟩ | hstate
    · exact hauthorized hto
    · exact absurd hstate (hfailed hto)
    · exact h.needsAllow hstate
  have hundispatched : toState = .dispatching → r.allowed ∧ entries id .dispatching events = 0 := by
    rintro rfl
    have hstate := authorized_of_validTransition hvalid
    exact ⟨h.needsAllow (by rw [hstate]; rfl), h.undispatched (Or.inr hstate)⟩
  constructor
  · exact hallowed
  · intro hto
    have hne : toState ≠ .authorized := by
      rintro rfl
      exact nomatch hto
    rw [hentries, if_neg hne, h.pending (isPending_of_validTransition hvalid (Or.inl hto))]
  · intro hto
    have hne : toState ≠ .dispatching := by
      rintro rfl
      simp [OperationState.isPending] at hto
    rw [hentries, if_neg hne, h.undispatched (Or.inl (isPending_of_validTransition hvalid hto))]
  · rw [hentries]
    split_ifs with hto
    · rw [(hundispatched hto).2]
    · exact h.once
  · intro hrefused
    obtain ⟨hauth, hdisp⟩ := h.refused hrefused
    rw [hentries, hentries, hauth, hdisp, if_neg fun hto => hrefused (hauthorized hto),
      if_neg fun hto => hrefused (hundispatched hto).1]
    exact ⟨rfl, rfl⟩

/-- A decision that was not there before does not undo what the operation has been. -/
theorem RecordGoverned.decided {events : List EventEnvelope} {id : OperationId} {r : OperationRecord}
    (h : RecordGoverned events id r) (hstate : r.state = .waitingHuman) (decision : PermissionDecision) :
    RecordGoverned events id { r with permissionDecision := some decision } where
  needsAllow hs := by
    rw [show OperationRecord.state { r with permissionDecision := some decision } = r.state from rfl, hstate] at hs
    exact nomatch hs
  pending := h.pending
  undispatched := h.undispatched
  once := h.once
  refused _ := by
    have hpending : OperationState.isPending r.state = true := by rw [hstate]; rfl
    exact ⟨h.pending hpending, h.undispatched (Or.inl hpending)⟩

/-- Replacing the record of one operation, after an event that is about no other. -/
theorem Governed.put {events events' : List EventEnvelope} {r : OperationReducer} {record : OperationRecord}
    (h : Governed events r) (hrecord : RecordGoverned events' record.operationId record)
    (hentries : ∀ id state, id ≠ record.operationId → entries id state events' = entries id state events) :
    Governed events' (r.put record) where
  record id record' hget := by
    rw [OperationReducer.get_put] at hget
    split_ifs at hget with hid
    · obtain rfl := Option.some.inj hget
      exact hid ▸ hrecord
    · exact (h.record id record' hget).of_entries fun state => hentries id state hid
  unknown id hget := by
    rw [OperationReducer.get_put] at hget
    split_ifs at hget with hid
    rw [hentries _ _ hid, hentries _ _ hid]
    exact h.unknown id hget

/-- An accepted event keeps every operation governed, if it is permitted. -/
theorem governed_apply {events : List EventEnvelope} {r r' : OperationReducer} {event : EventEnvelope}
    (h : Governed events r) (hpermitted : EventPermitted r event) (happly : r.apply event = .ok r') :
    Governed (events ++ [event]) r' := by
  have hunmoved (hmoved : ∀ rev f t a re, event.payload ≠ .operationStateChanged rev f t a re) (id state) :
      entries id state (events ++ [event]) = entries id state events := by
    rw [entries_append, enters_of_not_moved hmoved]
    rfl
  cases OperationReducer.apply_cases happly with
  | proposed record kind action summary risk capabilities hpayload hrecord _ hfresh =>
      have hentries := hunmoved fun _ _ _ _ _ hp => nomatch hpayload.symm.trans hp
      obtain ⟨hauth, hdisp⟩ := h.unknown _ hfresh
      have hstate : record.state = .proposed := by rw [hrecord]
      refine h.put ?_ fun id state _ => hentries id state
      refine ⟨fun hs => ?_, fun _ => ?_, fun _ => ?_, ?_, fun _ => ⟨?_, ?_⟩⟩
      · rw [hstate] at hs
        exact nomatch hs
      all_goals simp only [hentries, hauth, hdisp, Nat.zero_le]
  | moved record toState actor reason hpayload hid hget hvalid =>
      have hentries (id state) : entries id state (events ++ [event]) =
          entries id state events + if id = record.operationId ∧ toState = state then 1 else 0 := by
        rw [entries_append, enters_of_moved hpayload hid]
        simp only [Bool.and_eq_true, decide_eq_true_eq]
      refine h.put ((h.record _ _ hget).moved hvalid
        (hpermitted _ _ _ _ _ _ _ hpayload hid hget rfl) fun state => ?_) fun id state hne => ?_
      · rw [hentries]
        simp only [true_and]
      · rw [hentries, if_neg fun hc => hne hc.1, Nat.add_zero]
  | requested _ _ _ _ hpayload =>
      have hentries := hunmoved fun _ _ _ _ _ hp => nomatch hpayload.symm.trans hp
      refine ⟨fun id record hget => (h.record id record hget).of_entries fun _ => hentries _ _, fun id hget => ?_⟩
      rw [hentries, hentries]
      exact h.unknown id hget
  | decided record decision _ hpayload _ hget hstate _ =>
      have hentries := hunmoved fun _ _ _ _ _ hp => nomatch hpayload.symm.trans hp
      exact h.put (((h.record _ _ hget).of_entries fun _ => hentries _ _).decided hstate decision)
        fun id state _ => hentries id state
  | other _ hmoved =>
      have hentries := hunmoved hmoved
      refine ⟨fun id record hget => (h.record id record hget).of_entries fun _ => hentries _ _, fun id hget => ?_⟩
      rw [hentries, hentries]
      exact h.unknown id hget

end HyperTerm.Core
