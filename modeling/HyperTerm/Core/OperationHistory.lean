import HyperTerm.Core.Lifecycle
import HyperTerm.Lib.InPlace
import HyperTerm.Protocol.Block

/-!
# Histories of the operation reducer

`applyInPlace` is `OperationReducer::apply` as the source has it: it looks up the record, checks and then writes to it.
`call_applyInPlace` says that it computes `OperationReducer.apply` and that a rejected event changes nothing.

`Chronicle` is what the accepted events of a history and the records say of each other, whatever was rejected between
them: the revision counts the state changes, no state is entered twice, and a decision was made once.
-/

namespace HyperTerm.Core
open HyperTerm.Protocol HyperTerm.Lib

namespace OperationReducer

abbrev Reducing := InPlace OperationReducer OperationError

/-- `self.records.get_mut(&operation_id).ok_or(..)` of the source, and `record_for_event`. -/
def recordOf (event : EventEnvelope) : Reducing OperationRecord := do
  let operationId ← InPlace.ofExcept (okOr event.operationId .missingOperationId)
  InPlace.ofExcept (okOr ((← InPlace.self).get operationId) (.notFound operationId))

def applyInPlace (event : EventEnvelope) : Reducing Unit :=
  match event.payload with
  | .operationProposed revision kind action summary risk requiredCapabilities => do
      let operationId ← InPlace.ofExcept (okOr event.operationId .missingOperationId)
      if revision ≠ 1 then throw (.invalidInitialRevision revision)
      else if ((← InPlace.self).get operationId).isSome then throw (.alreadyExists operationId)
      else
        modify fun r => r.put { taskId := event.taskId, operationId, revision, kind, action, summary, risk,
                                requiredCapabilities, state := .proposed, permissionDecision := none }
  | .operationStateChanged revision fromState toState _ _ => do
      let record ← recordOf event
      if revision ≠ record.revision + 1 then throw (.staleRevision (record.revision + 1) revision)
      else if record.state ≠ fromState then throw (.stateMismatch record.state fromState)
      else if ¬validTransition fromState toState then throw (.invalidTransition fromState toState)
      else modify fun r => r.put { record with revision, state := toState }
  | .permissionRequested operationRevision _ _ _ => do
      let record ← recordOf event
      if record.state ≠ .waitingHuman then throw (.permissionOutsideWaitingState record.state)
      else if record.revision ≠ operationRevision then throw (.staleRevision record.revision operationRevision)
      else pure ()
  | .permissionDecided operationRevision decision _ => do
      let record ← recordOf event
      if record.state ≠ .waitingHuman then throw (.permissionOutsideWaitingState record.state)
      else if record.revision ≠ operationRevision then throw (.staleRevision record.revision operationRevision)
      else if record.permissionDecision.isSome then throw (.permissionAlreadyDecided record.operationId)
      else modify fun r => r.put { record with permissionDecision := some decision }
  | _ => pure ()

theorem call_recordOf (event : EventEnvelope) (r : OperationReducer) :
    (recordOf event).call r = (r.recordForEvent event, r) := by
  unfold recordOf recordForEvent
  rw [InPlace.call_bind, InPlace.call_ofExcept]
  cases okOr event.operationId OperationError.missingOperationId with
  | error e => rfl
  | ok operationId => rfl

/-- The records after an event: the new ones if it is accepted, else those of before. -/
theorem call_applyInPlace (event : EventEnvelope) (r : OperationReducer) :
    (applyInPlace event).call r =
      match r.apply event with
      | .ok r' => (.ok (), r')
      | .error e => (.error e, r) := by
  unfold applyInPlace apply
  generalize event.payload = payload
  cases payload
  case operationProposed revision _ _ _ _ _ =>
    dsimp only
    rw [InPlace.call_bind, InPlace.call_ofExcept]
    cases okOr event.operationId OperationError.missingOperationId with
    | error e => rfl
    | ok operationId =>
        dsimp only [bind, Except.bind]
        by_cases hrevision : revision ≠ 1
        · rw [if_pos hrevision, if_pos hrevision]
          rfl
        · rw [if_neg hrevision, if_neg hrevision]
          show InPlace.call (if (r.get operationId).isSome then _ else _) r = _
          split_ifs <;> rfl
  case operationStateChanged | permissionRequested | permissionDecided =>
    dsimp only
    rw [InPlace.call_bind, call_recordOf]
    cases r.recordForEvent event with
    | error e => rfl
    | ok record =>
        dsimp only [bind, Except.bind]
        split_ifs <;> rfl
  all_goals rfl

theorem clean_applyInPlace (event : EventEnvelope) : InPlace.Clean (applyInPlace event) := by
  intro r e
  rw [call_applyInPlace]
  cases r.apply event with
  | error e' => exact fun _ => rfl
  | ok r' => exact fun h => nomatch h

theorem apply_of_call {event : EventEnvelope} {r r' : OperationReducer} {u : Unit}
    (h : (applyInPlace event).call r = (.ok u, r')) : r.apply event = .ok r' := by
  rw [call_applyInPlace] at h
  cases happly : r.apply event with
  | error e =>
      rw [happly] at h
      exact nomatch congrArg Prod.fst h
  | ok r'' =>
      rw [happly] at h
      exact congrArg _ (congrArg Prod.snd h)

/-! ## Histories -/

/-- The records after a sequence of events, whichever of them were rejected. -/
def fed (events : List EventEnvelope) : OperationReducer := InPlace.leaves applyInPlace new events

/-- The events of the sequence that were accepted. -/
def accepted (events : List EventEnvelope) : List EventEnvelope :=
  (InPlace.successes applyInPlace new events).map Prod.fst

theorem fed_concat (events : List EventEnvelope) (event : EventEnvelope) :
    fed (events ++ [event]) = ((applyInPlace event).call (fed events)).2 := InPlace.leaves_append _ _ _ _

/-- One more event is accepted and applied, or rejected without a trace. -/
theorem fed_cases (events : List EventEnvelope) (event : EventEnvelope) :
    ((fed events).apply event = .ok (fed (events ++ [event])) ∧ accepted (events ++ [event]) = accepted events ++ [event]) ∨
      ((∃ e, ((applyInPlace event).call (fed events)).1 = .error e) ∧ fed (events ++ [event]) = fed events ∧
        accepted (events ++ [event]) = accepted events) := by
  have haccepted : accepted (events ++ [event]) =
      accepted events ++ (InPlace.successes applyInPlace (fed events) [event]).map Prod.fst := by
    unfold accepted
    rw [InPlace.successes_append, List.map_append]
    rfl
  rw [haccepted, fed_concat, call_applyInPlace]
  cases happly : (fed events).apply event with
  | ok r' =>
      refine Or.inl ⟨rfl, ?_⟩
      have hcall : (applyInPlace event).call (fed events) = (.ok (), r') := by rw [call_applyInPlace, happly]
      rw [InPlace.successes_ok hcall]
      rfl
  | error e =>
      refine Or.inr ⟨⟨e, rfl⟩, rfl, ?_⟩
      have hcall : (applyInPlace event).call (fed events) = (.error e, fed events) := by
        rw [call_applyInPlace, happly]
      rw [InPlace.successes_error hcall]
      exact List.append_nil _

end OperationReducer

/-- The event changes the state of the operation. -/
def changes (id : OperationId) (event : EventEnvelope) : Bool :=
  match event.payload with
  | .operationStateChanged _ _ _ _ _ => event.operationId = some id
  | _ => false

/-- The event decides on the operation. -/
def decides (id : OperationId) (event : EventEnvelope) : Bool :=
  match event.payload with
  | .permissionDecided _ _ _ => event.operationId = some id
  | _ => false

/-! ## The graph of states -/

/-- How far an operation has come. -/
def OperationState.rank : OperationState → Nat
  | .proposed => 0
  | .policyCheck => 1
  | .waitingHuman => 2
  | .authorized => 3
  | .dispatching => 4
  | .unknownExecution => 5
  | .succeeded | .failed | .violated | .cancelled => 6

open OperationState (rank)

/-- Every transition leads further, so no state is entered twice. -/
theorem rank_lt_of_validTransition {fromState toState : OperationState}
    (h : validTransition fromState toState = true) : rank fromState < rank toState := by
  cases fromState <;> cases toState <;> first | exact absurd h Bool.false_ne_true | decide

theorem rank_le (state : OperationState) : rank state ≤ 6 := by
  cases state <;> decide

/-- Nothing leads out of a terminal state. -/
theorem validTransition_of_isTerminal {fromState : OperationState} (h : fromState.isTerminal = true)
    (toState : OperationState) : validTransition fromState toState = false := by
  cases fromState <;> first | rfl | exact absurd h Bool.false_ne_true

/-! ## The chronicle of an operation -/

variable {id : OperationId} {events : List EventEnvelope} {event : EventEnvelope}

theorem entries_le_changes (id : OperationId) (state : OperationState) (events : List EventEnvelope) :
    entries id state events ≤ events.countP (changes id) := by
  unfold entries
  refine List.countP_mono_left fun event _ h => ?_
  unfold enters at h
  unfold changes
  cases hpayload : event.payload <;> rw [hpayload] at h
  case operationStateChanged => exact ((Bool.and_eq_true _ _).mp h).1
  all_goals exact absurd h Bool.false_ne_true

theorem countP_concat (p : EventEnvelope → Bool) (events : List EventEnvelope) (event : EventEnvelope) :
    (events ++ [event]).countP p = events.countP p + if p event then 1 else 0 := by
  rw [List.countP_append, List.countP_singleton]

/-- What the accepted events and the record of an operation say of each other. -/
structure RecordChronicle (events : List EventEnvelope) (id : OperationId) (record : OperationRecord) : Prop where
  revision : record.revision = 1 + events.countP (changes id)
  revisionRank : record.revision ≤ 1 + rank record.state
  once : ∀ state, entries id state events ≤ 1
  passed : ∀ state, 0 < entries id state events → rank state ≤ rank record.state
  decided : events.countP (decides id) = if record.permissionDecision.isSome then 1 else 0

/-- Every record agrees with the accepted events, which touch no other operation. -/
structure Chronicle (events : List EventEnvelope) (r : OperationReducer) : Prop where
  record : ∀ id record, r.get id = some record → RecordChronicle events id record
  unknown : ∀ id, r.get id = none → events.countP (changes id) = 0 ∧ events.countP (decides id) = 0

theorem chronicle_nil : Chronicle [] .new where
  record _ _ h := nomatch h
  unknown _ _ := ⟨rfl, rfl⟩

/-- An event that neither moves nor decides on an operation leaves its chronicle alone. -/
theorem RecordChronicle.quiet {record : OperationRecord} (h : RecordChronicle events id record)
    (hchanges : changes id event = false) (hdecides : decides id event = false) :
    RecordChronicle (events ++ [event]) id record := by
  have hentries (state) : entries id state (events ++ [event]) = entries id state events := by
    have hle := entries_le_changes id state [event]
    rw [List.countP_singleton, hchanges] at hle
    unfold entries at hle ⊢
    rw [List.countP_append]
    simpa using hle
  refine ⟨?_, h.revisionRank, fun state => ?_, fun state hpos => ?_, ?_⟩
  · rw [countP_concat, hchanges, h.revision]
    rfl
  · rw [hentries]
    exact h.once state
  · exact h.passed state (hentries state ▸ hpos)
  · rw [countP_concat, hdecides, h.decided]
    rfl

/-- The chronicle of a record that is replaced, after an event about no other operation. -/
theorem Chronicle.put {r : OperationReducer} {record : OperationRecord} (h : Chronicle events r)
    (hrecord : RecordChronicle (events ++ [event]) record.operationId record)
    (hchanges : ∀ id, id ≠ record.operationId → changes id event = false)
    (hdecides : ∀ id, id ≠ record.operationId → decides id event = false) :
    Chronicle (events ++ [event]) (r.put record) where
  record id record' hget := by
    rw [OperationReducer.get_put] at hget
    split_ifs at hget with hid
    · obtain rfl := Option.some.inj hget
      exact hid ▸ hrecord
    · exact (h.record id record' hget).quiet (hchanges id hid) (hdecides id hid)
  unknown id hget := by
    rw [OperationReducer.get_put] at hget
    split_ifs at hget with hid
    rw [countP_concat, countP_concat, hchanges id hid, hdecides id hid]
    exact h.unknown id hget

theorem Chronicle.quiet {r : OperationReducer} (h : Chronicle events r) (hchanges : ∀ id, changes id event = false)
    (hdecides : ∀ id, decides id event = false) : Chronicle (events ++ [event]) r where
  record id record hget := (h.record id record hget).quiet (hchanges id) (hdecides id)
  unknown id hget := by
    rw [countP_concat, countP_concat, hchanges id, hdecides id]
    exact h.unknown id hget

theorem changes_of_not_moved (h : ∀ rev f t a re, event.payload ≠ .operationStateChanged rev f t a re)
    (id : OperationId) : changes id event = false := by
  unfold changes
  split
  · next heq => exact absurd heq (h _ _ _ _ _)
  · rfl

theorem decides_of_not_decided (h : ∀ rev d a, event.payload ≠ .permissionDecided rev d a) (id : OperationId) :
    decides id event = false := by
  unfold decides
  split
  · next heq => exact absurd heq (h _ _ _)
  · rfl

/-- An accepted event keeps the chronicle. -/
theorem chronicle_apply {r r' : OperationReducer} (h : Chronicle events r) (happly : r.apply event = .ok r') :
    Chronicle (events ++ [event]) r' := by
  cases OperationReducer.apply_cases happly with
  | proposed record kind action summary risk capabilities hpayload hrecord hid hfresh =>
      have hchanges := changes_of_not_moved fun _ _ _ _ _ hp => nomatch hpayload.symm.trans hp
      have hdecides := decides_of_not_decided fun _ _ _ hp => nomatch hpayload.symm.trans hp
      obtain ⟨hchanged, hdecided⟩ := h.unknown _ hfresh
      have hentries (state) : entries record.operationId state events = 0 :=
        Nat.le_zero.mp (hchanged ▸ entries_le_changes _ state events)
      have hborn : RecordChronicle events record.operationId record := by
        refine ⟨?_, ?_, fun state => ?_, fun state hpos => ?_, ?_⟩
        · rw [hchanged, hrecord]
        · rw [hrecord]
          exact Nat.le_add_right 1 _
        · rw [hentries]
          exact Nat.zero_le 1
        · rw [hentries] at hpos
          exact absurd hpos (Nat.lt_irrefl 0)
        · rw [hdecided, hrecord]
          rfl
      exact h.put (hborn.quiet (hchanges _) (hdecides _)) (fun id _ => hchanges id) fun id _ => hdecides id
  | moved record toState actor reason hpayload hid hget hvalid =>
      have hdecides := decides_of_not_decided fun _ _ _ hp => nomatch hpayload.symm.trans hp
      have hchanges (id) : changes id event = decide (id = record.operationId) := by
        simp [changes, hpayload, hid, eq_comm]
      have hold := h.record _ _ hget
      have hrank := rank_lt_of_validTransition hvalid
      have hentries (state) : entries record.operationId state (events ++ [event]) =
          entries record.operationId state events + if toState = state then 1 else 0 := by
        rw [entries_append, enters_of_moved hpayload hid]
        simp only [decide_true, Bool.true_and, decide_eq_true_eq]
      refine h.put ⟨?_, ?_, fun state => ?_, fun state hpos => ?_, ?_⟩ (fun id hne => ?_) fun id _ => hdecides id
      · show record.revision + 1 = _
        rw [countP_concat, hchanges, hold.revision, decide_eq_true rfl]
        rfl
      · show record.revision + 1 ≤ 1 + rank toState
        have hle := hold.revisionRank
        omega
      · show entries record.operationId state _ ≤ 1
        rw [hentries]
        split_ifs with hto
        · -- what has been entered ranks no higher than where the operation is
          have hzero : entries record.operationId state events = 0 := by
            by_contra hne
            have hpassed := hold.passed state (Nat.pos_of_ne_zero hne)
            rw [← hto] at hpassed
            omega
          omega
        · exact hold.once state
      · show rank state ≤ rank toState
        change 0 < entries record.operationId state _ at hpos
        rw [hentries] at hpos
        split_ifs at hpos with hto
        · rw [hto]
        · exact (hold.passed state hpos).trans hrank.le
      · show (events ++ [event]).countP (decides record.operationId) = _
        rw [countP_concat, hdecides, hold.decided]
        rfl
      · rw [hchanges]
        exact decide_eq_false hne
  | requested _ _ _ _ hpayload =>
      exact h.quiet (changes_of_not_moved fun _ _ _ _ _ hp => nomatch hpayload.symm.trans hp)
        (decides_of_not_decided fun _ _ _ hp => nomatch hpayload.symm.trans hp)
  | decided record decision _ hpayload hid hget hstate hnone =>
      have hchanges := changes_of_not_moved fun _ _ _ _ _ hp => nomatch hpayload.symm.trans hp
      have hdecides (id) : decides id event = decide (id = record.operationId) := by
        simp [decides, hpayload, hid, eq_comm]
      have hold := h.record _ _ hget
      have hentries (state) : entries record.operationId state (events ++ [event]) =
          entries record.operationId state events := by
        rw [entries_append, enters_of_not_moved fun _ _ _ _ _ hp => nomatch hpayload.symm.trans hp]
        rfl
      refine h.put ⟨?_, hold.revisionRank, fun state => ?_, fun state hpos => ?_, ?_⟩ (fun id _ => hchanges id)
        fun id hne => ?_
      · show record.revision = _
        rw [countP_concat, hchanges, hold.revision]
        rfl
      · show entries record.operationId state _ ≤ 1
        rw [hentries]
        exact hold.once state
      · change 0 < entries record.operationId state _ at hpos
        exact hold.passed state (hentries state ▸ hpos)
      · show (events ++ [event]).countP (decides record.operationId) = 1
        rw [countP_concat, hdecides, hold.decided, hnone, decide_eq_true rfl]
        rfl
      · rw [hdecides]
        exact decide_eq_false hne
  | other _ hmoved _ hdecided => exact h.quiet (changes_of_not_moved hmoved) (decides_of_not_decided hdecided)

/-- Whatever is rejected, the records agree with what was accepted. -/
theorem chronicle_fed (events : List EventEnvelope) :
    Chronicle (OperationReducer.accepted events) (OperationReducer.fed events) :=
  InPlace.history (P := fun done r => Chronicle (done.map Prod.fst) r) OperationReducer.clean_applyInPlace
    chronicle_nil (fun done r event _ r' h hcall => by
      rw [List.map_append]
      exact chronicle_apply h (OperationReducer.apply_of_call hcall)) events

theorem Chronicle.dispatches {r : OperationReducer} (h : Chronicle events r) (id : OperationId) :
    entries id .dispatching events ≤ 1 := by
  cases hget : r.get id with
  | none =>
      have hle := entries_le_changes id .dispatching events
      rw [(h.unknown id hget).1] at hle
      omega
  | some record => exact (h.record id record hget).once _

theorem Chronicle.decisions {r : OperationReducer} (h : Chronicle events r) (id : OperationId) :
    events.countP (decides id) ≤ 1 := by
  cases hget : r.get id with
  | none =>
      rw [(h.unknown id hget).2]
      exact Nat.zero_le 1
  | some record =>
      rw [(h.record id record hget).decided]
      split_ifs <;> omega

/-- The revision counts at most six changes, so adding one to it never wraps. -/
theorem Chronicle.revision_le {r : OperationReducer} (h : Chronicle events r) {record : OperationRecord}
    (hget : r.get id = some record) : record.revision ≤ 7 := by
  have hrank := (h.record id record hget).revisionRank
  have hle := rank_le record.state
  omega

/-! ## What one event does to a record -/

/-- The record of an operation before and after an accepted event. -/
inductive RecordChange (id : OperationId) (event : EventEnvelope) : Option OperationRecord → OperationRecord → Prop
  | same (record : OperationRecord) : RecordChange id event (some record) record
  | born (record : OperationRecord) (hstate : record.state = .proposed) (hnone : record.permissionDecision = none) :
      RecordChange id event none record
  | moved (record : OperationRecord) (toState : OperationState) (henters : enters id toState event = true)
      (hvalid : validTransition record.state toState = true) :
      RecordChange id event (some record) { record with revision := record.revision + 1, state := toState }
  | decided (record : OperationRecord) (decision : PermissionDecision) (actor : Actor)
      (hid : event.operationId = some id) (hpayload : event.payload = .permissionDecided record.revision decision actor)
      (hstate : record.state = .waitingHuman) (hnone : record.permissionDecision = none) :
      RecordChange id event (some record) { record with permissionDecision := some decision }

theorem recordChange {r r' : OperationReducer} (happly : r.apply event = .ok r') {record' : OperationRecord}
    (hget' : r'.get id = some record') : RecordChange id event (r.get id) record' := by
  have hput {record : OperationRecord} (hr' : r' = r.put record)
      (hchange : RecordChange record.operationId event (r.get record.operationId) record) :
      RecordChange id event (r.get id) record' := by
    rw [hr', OperationReducer.get_put] at hget'
    split_ifs at hget' with hid
    · rw [hid, ← Option.some.inj hget']
      exact hchange
    · rw [hget']
      exact .same record'
  cases OperationReducer.apply_cases happly with
  | proposed record _ _ _ _ _ _ hrecord _ hfresh =>
      refine hput rfl ?_
      rw [hfresh]
      exact .born record (by rw [hrecord]) (by rw [hrecord])
  | moved record toState _ _ hpayload hid hget hvalid =>
      refine hput rfl ?_
      show RecordChange record.operationId event (r.get record.operationId) _
      rw [hget]
      refine .moved record toState ?_ hvalid
      rw [enters_of_moved hpayload hid, decide_eq_true rfl, decide_eq_true rfl]
      rfl
  | requested =>
      rw [hget']
      exact .same record'
  | decided record decision actor hpayload hid hget hstate hnone =>
      refine hput rfl ?_
      show RecordChange record.operationId event (r.get record.operationId) _
      rw [hget]
      exact .decided record decision actor hid hpayload hstate hnone
  | other =>
      rw [hget']
      exact .same record'

/-- A record that has come to a terminal state stays there. -/
theorem terminal_step (events : List EventEnvelope) (event : EventEnvelope) {record : OperationRecord}
    (hget : (OperationReducer.fed events).get id = some record)
    (hterminal : OperationState.isTerminal record.state = true) :
    ∃ record', (OperationReducer.fed (events ++ [event])).get id = some record' ∧ record'.state = record.state := by
  obtain ⟨happly, -⟩ | ⟨-, hsame, -⟩ := OperationReducer.fed_cases events event
  · obtain ⟨record', hget', -⟩ := OperationReducer.apply_extends happly id record hget
    refine ⟨record', hget', ?_⟩
    have hchange := recordChange happly hget'
    rw [hget] at hchange
    cases hchange with
    | same => rfl
    | moved _ toState _ hvalid => exact absurd hvalid (by rw [validTransition_of_isTerminal hterminal]; decide)
    | decided => rfl
  · exact ⟨record, hsame ▸ hget, rfl⟩

theorem terminal_run (events later : List EventEnvelope) {record : OperationRecord}
    (hget : (OperationReducer.fed events).get id = some record)
    (hterminal : OperationState.isTerminal record.state = true) :
    ∃ record', (OperationReducer.fed (events ++ later)).get id = some record' ∧ record'.state = record.state := by
  induction later generalizing events record with
  | nil => exact ⟨record, (List.append_nil events).symm ▸ hget, rfl⟩
  | cons event later ih =>
      obtain ⟨next, hnext, hstate⟩ := terminal_step events event hget hterminal
      obtain ⟨record', hget', hstate'⟩ := ih (events ++ [event]) hnext (hstate ▸ hterminal)
      refine ⟨record', ?_, hstate'.trans hstate⟩
      rwa [List.append_assoc] at hget'

/-! ## The history of every operation -/

/-- What the reducer promises after a sequence of events, accepted or rejected. -/
structure OperationHistory (events : List EventEnvelope) : Prop where
  rejected : ∀ event error, ((OperationReducer.applyInPlace event).call (OperationReducer.fed events)).1 = .error error →
    OperationReducer.fed (events ++ [event]) = OperationReducer.fed events
  revision : ∀ id record, (OperationReducer.fed events).get id = some record →
    record.revision = 1 + (OperationReducer.accepted events).countP (changes id)
  terminal : ∀ id record later, (OperationReducer.fed events).get id = some record →
    OperationState.isTerminal record.state = true →
      ∃ record', (OperationReducer.fed (events ++ later)).get id = some record' ∧ record'.state = record.state
  -- a record changes its state by an accepted event that enters the new one
  entered : ∀ id event record record', (OperationReducer.fed events).get id = some record →
    (OperationReducer.fed (events ++ [event])).get id = some record' → record'.state ≠ record.state →
      enters id record'.state event = true ∧
        OperationReducer.accepted (events ++ [event]) = OperationReducer.accepted events ++ [event]
  born : ∀ id event record', (OperationReducer.fed events).get id = none →
    (OperationReducer.fed (events ++ [event])).get id = some record' →
      record'.state = .proposed ∧ record'.permissionDecision = none
  dispatching : ∀ id, entries id .dispatching (OperationReducer.accepted events) ≤ 1
  decidedOnce : ∀ id, (OperationReducer.accepted events).countP (decides id) ≤ 1
  decided : ∀ id event record record', (OperationReducer.fed events).get id = some record →
    (OperationReducer.fed (events ++ [event])).get id = some record' →
      record'.permissionDecision ≠ record.permissionDecision →
        record.state = .waitingHuman ∧ record.permissionDecision = none ∧ ∃ decision actor,
          event.operationId = some id ∧ event.payload = .permissionDecided record.revision decision actor ∧
            record'.permissionDecision = some decision

/-- **Main result.** Every sequence of events leaves the reducer with a history of that kind. -/
theorem operation_history (events : List EventEnvelope) : OperationHistory events where
  rejected event error herror := by
    rw [OperationReducer.fed_concat]
    exact OperationReducer.clean_applyInPlace event _ error herror
  revision id record hget := ((chronicle_fed events).record id record hget).revision
  terminal _ _ later hget hterminal := terminal_run events later hget hterminal
  entered id event record record' hget hget' hne := by
    obtain ⟨happly, haccepted⟩ | ⟨-, hsame, -⟩ := OperationReducer.fed_cases events event
    · refine ⟨?_, haccepted⟩
      have hchange := recordChange happly hget'
      rw [hget] at hchange
      cases hchange with
      | same => exact absurd rfl hne
      | moved _ toState henters _ => exact henters
      | decided => exact absurd rfl hne
    · rw [hsame, hget] at hget'
      exact absurd (congrArg OperationRecord.state (Option.some.inj hget').symm) hne
  born id event record' hget hget' := by
    obtain ⟨happly, -⟩ | ⟨-, hsame, -⟩ := OperationReducer.fed_cases events event
    · have hchange := recordChange happly hget'
      rw [hget] at hchange
      cases hchange with
      | born _ hstate hnone => exact ⟨hstate, hnone⟩
    · rw [hsame, hget] at hget'
      exact nomatch hget'
  dispatching := (chronicle_fed events).dispatches
  decidedOnce := (chronicle_fed events).decisions
  decided id event record record' hget hget' hne := by
    obtain ⟨happly, -⟩ | ⟨-, hsame, -⟩ := OperationReducer.fed_cases events event
    · have hchange := recordChange happly hget'
      rw [hget] at hchange
      cases hchange with
      | same => exact absurd rfl hne
      | moved => exact absurd rfl hne
      | decided _ decision actor hid hpayload hstate hnone =>
          exact ⟨hstate, hnone, decision, actor, hid, hpayload, rfl⟩
    · rw [hsame, hget] at hget'
      exact absurd (congrArg OperationRecord.permissionDecision (Option.some.inj hget').symm) hne

end HyperTerm.Core
