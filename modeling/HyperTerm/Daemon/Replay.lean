import HyperTerm.Daemon.Authority

/-!
# What the authority holds is what its journal says

The live path and the replay loop of opening the daemon check an event in different ways. One call of
`record` takes a state that opening finds on its file to another such state (`openAuthority_record`), so
every run of calls does.
-/

namespace HyperTerm.Daemon
open HyperTerm.Protocol HyperTerm.Core HyperTerm.Lib

variable {C : LineCodec EventEnvelope} {D : Digests} {readArtifact : AcceptedGenUiArtifact → Except String Unit}

/-! ## One round of the replay loop -/

/-- An artifact that the event accepts is in the artifact store, which is written before the event is
recorded. -/
def ArtifactStored (readArtifact : AcceptedGenUiArtifact → Except String Unit) (payload : DomainEvent) : Prop :=
  ∀ artifact, payload = .artifactAccepted artifact → readArtifact artifact = .ok ()

theorem projectorFor_taskId (projectors : Projectors) (taskId : TaskId) :
    (projectorFor projectors taskId).taskId = taskId := by
  unfold projectorFor
  cases h : projectors.get? taskId with
  | none => rfl
  | some p => exact Keyed.key_eq_of_get? h

theorem artifactCheck_eq_ok {event : EventEnvelope} :
    artifactCheck readArtifact event = .ok () ↔ ArtifactStored readArtifact event.payload := by
  unfold artifactCheck ArtifactStored
  split <;> simp_all

theorem Replay.taskCheck_eq_ok {r : Replay} {event : EventEnvelope} {createdTasks : Finset TaskId} :
    r.taskCheck event = .ok createdTasks ↔
      (event.payload.isTaskCreated = true ↔ event.taskId ∉ r.createdTasks) ∧
        createdTasks = insert event.taskId r.createdTasks := by
  unfold taskCheck
  by_cases hcreate : event.payload.isTaskCreated = true <;> by_cases hmem : event.taskId ∈ r.createdTasks <;>
    simp [hcreate, hmem, eq_comm]

theorem replayEvent_eq_ok {r r' : Replay} {event : EventEnvelope} :
    replayEvent D readArtifact r event = .ok r' ↔
      (event.payload.isTaskCreated = true ↔ event.taskId ∉ r.createdTasks) ∧
        ArtifactStored readArtifact event.payload ∧ ∃ operations projector patch,
          r.operations.apply event = .ok operations ∧
          (projectorFor r.projectors event.taskId).apply D event = .ok (projector, patch) ∧
          r' = ⟨insert event.taskId r.createdTasks, operations, r.projectors.put projector⟩ := by
  simp only [replayEvent, bind_eq_ok, pure_eq_ok, operationError_eq_ok, projectorError_eq_ok,
    Replay.taskCheck_eq_ok, Prod.exists]
  constructor
  · rintro ⟨_, ⟨htask, rfl⟩, operations, hops, projector, patch, hproj, ⟨⟩, hart, rfl⟩
    exact ⟨htask, artifactCheck_eq_ok.mp hart, operations, projector, patch, hops, hproj, rfl⟩
  · rintro ⟨htask, hart, operations, projector, patch, hops, hproj, rfl⟩
    exact ⟨_, ⟨htask, rfl⟩, operations, hops, projector, patch, hproj, (), artifactCheck_eq_ok.mpr hart, rfl⟩

/-! ## The whole journal -/

/-- The loop has created exactly the tasks that have a projector. -/
theorem replayLoop_createdTasks {events : List EventEnvelope} {r : Replay}
    (h : replayLoop D readArtifact events = .ok r) (taskId : TaskId) :
    taskId ∈ r.createdTasks ↔ r.projectors.get? taskId ≠ none := by
  induction events using List.reverseRecOn generalizing r with
  | nil =>
      obtain rfl := Except.ok.inj h
      simp
  | append_singleton events event ih =>
      obtain ⟨q, hq, hevent⟩ := foldlM_concat_eq_ok.mp h
      obtain ⟨-, -, operations, projector, patch, -, hproj, rfl⟩ := replayEvent_eq_ok.mp hevent
      have hkey : projector.taskId = event.taskId :=
        (BlockProjector.apply_taskId hproj).trans (projectorFor_taskId _ _)
      rw [Finset.mem_insert, ih hq, Keyed.get?_put, hkey]
      by_cases htask : taskId = event.taskId <;> simp [htask]

theorem foldEvents_of_replayLoop {events : List EventEnvelope} {r : Replay}
    (h : replayLoop D readArtifact events = .ok r) : foldEvents D events = .ok (r.operations, r.projectors) := by
  induction events using List.reverseRecOn generalizing r with
  | nil =>
      obtain rfl := Except.ok.inj h
      rfl
  | append_singleton events event ih =>
      obtain ⟨q, hq, hevent⟩ := foldlM_concat_eq_ok.mp h
      obtain ⟨-, -, operations, projector, patch, hops, hproj, rfl⟩ := replayEvent_eq_ok.mp hevent
      refine foldlM_concat_eq_ok.mpr ⟨_, ih hq, ?_⟩
      simp [foldEvent, hops, hproj, operationError, projectorError, Except.mapError, bind, Except.bind, pure,
        Except.pure]

theorem openAuthority_eq_ok {file : List UInt8} {a : AuthorityState} :
    openAuthority C D readArtifact file = .ok a ↔
      a.journal.file = file ∧ readExisting C file = .ok a.journal.events ∧
        ∃ createdTasks, replayLoop D readArtifact a.journal.events =
          .ok ⟨createdTasks, a.operations, a.projectors⟩ := by
  simp only [openAuthority, JsonlJournal.open, bind_eq_ok, pure_eq_ok, journalError_eq_ok]
  constructor
  · rintro ⟨_, ⟨events, hread, rfl⟩, r, hr, rfl⟩
    exact ⟨rfl, hread, r.createdTasks, hr⟩
  · rintro ⟨rfl, hread, createdTasks, hr⟩
    exact ⟨_, ⟨_, hread, rfl⟩, _, hr, rfl⟩

/-! ## Runs of `record` -/

/-- One call on a state that opening finds on its file leaves such a state, if its I/O does not fail. -/
theorem openAuthority_record {a : AuthorityState} {env : RecordEnv} {event : NewEvent}
    (h : openAuthority C D readArtifact a.journal.file = .ok a) (hio : env.io = .done)
    (hart : ArtifactStored readArtifact event.payload) :
    openAuthority C D readArtifact (a.record C D env event).1.journal.file = .ok (a.record C D env event).1 := by
  have hout := a.record_outcome (C := C) (D := D) env event
  generalize (a.record C D env event).1 = a', (a.record C D env event).2 = result at hout ⊢
  cases hout with
  | refused e => exact h
  | ioFailed file hfail => exact absurd hio hfail
  | recorded envelope operations projector patch henv htask hops hproj _ hlen =>
      obtain ⟨-, hread, createdTasks, hreplay⟩ := openAuthority_eq_ok.mp h
      have hcontiguous : Contiguous 1 a.journal.events := readLoop_contiguous hread
      have hseq := henv.sequence
      have hvalid : envelope.validate = .ok () :=
        EventEnvelope.validate_eq_ok.mpr ⟨henv.schemaVersion, by omega⟩
      refine openAuthority_eq_ok.mpr ⟨rfl, ?_, insert event.taskId createdTasks, ?_⟩
      · rw [JsonlJournal.lastSequence_of_contiguous hcontiguous, Nat.add_comm] at hseq
        rw [readExisting, readLoop_append hread, readLoop_line hlen hvalid, if_neg (not_not.mpr hseq), readLoop_nil]
        rfl
      · refine foldlM_concat_eq_ok.mpr ⟨_, hreplay, replayEvent_eq_ok.mpr ⟨?_, ?_, operations, projector, patch,
          hops, ?_, ?_⟩⟩
        · rw [henv.payload, henv.taskId, htask, replayLoop_createdTasks hreplay, not_not]
        · rw [henv.payload]
          exact hart
        · rw [henv.taskId]
          exact hproj
        · rw [henv.taskId]

structure RecordCall where
  env : RecordEnv
  event : NewEvent

def recordAll (C : LineCodec EventEnvelope) (D : Digests) (a : AuthorityState) (calls : List RecordCall) :
    AuthorityState := calls.foldl (fun a call => (a.record C D call.env call.event).1) a

theorem openAuthority_recordAll {a : AuthorityState} {calls : List RecordCall}
    (h : openAuthority C D readArtifact a.journal.file = .ok a) (hio : ∀ call ∈ calls, call.env.io = .done)
    (hart : ∀ call ∈ calls, ArtifactStored readArtifact call.event.payload) :
    openAuthority C D readArtifact (recordAll C D a calls).journal.file = .ok (recordAll C D a calls) := by
  induction calls generalizing a with
  | nil => exact h
  | cons call calls ih =>
      rw [List.forall_mem_cons] at hio hart
      exact ih (openAuthority_record h hio.1 hart.1) hio.2 hart.2

/-- A refused call leaves journal, reducer and projectors as they were. -/
theorem record_error {a : AuthorityState} {env : RecordEnv} {event : NewEvent} {e : DaemonError}
    (hio : env.io = .done) (h : (a.record C D env event).2 = .error e) : (a.record C D env event).1 = a := by
  have hout := a.record_outcome (C := C) (D := D) env event
  rw [h] at hout
  generalize (a.record C D env event).1 = a' at hout ⊢
  cases hout with
  | refused => rfl
  | ioFailed file hfail => exact absurd hio hfail

theorem openAuthority_nil : openAuthority C D readArtifact [] = .ok emptyAuthority :=
  openAuthority_eq_ok.mpr ⟨rfl, readLoop_nil 1, ∅, rfl⟩

/-- The call of `record` that journals `sampleEvent`. -/
def sampleCall (sequence : Nat) (operationId : Option OperationId) (payload : DomainEvent) : RecordCall where
  env := ⟨.ok sequence, ⟨BitVec.ofNat 128 sequence⟩, .done⟩
  event := ⟨sampleTask, none, operationId, none, none, payload⟩

/-- Equal but for the bytes of the journal file. -/
structure SameMemory (a b : AuthorityState) : Prop where
  events : a.journal.events = b.journal.events
  operations : a.operations = b.operations
  projectors : a.projectors = b.projectors

theorem SameMemory.refl (a : AuthorityState) : SameMemory a a := ⟨rfl, rfl, rfl⟩

/-- The memory after a call whose append succeeds; it does not depend on the encoding of events. -/
def dryRecord (D : Digests) (a : AuthorityState) (call : RecordCall) : Except DaemonError AuthorityState := do
  let (envelope, operations, projector, _) ← a.tryEvent D call.env call.event
  return ⟨⟨[], a.journal.events ++ [envelope]⟩, operations, a.projectors.put projector⟩

def dryAll (D : Digests) (a : AuthorityState) (calls : List RecordCall) : Except DaemonError AuthorityState :=
  calls.foldlM (dryRecord D) a

theorem dryRecord_events {a b : AuthorityState} {call : RecordCall} (h : dryRecord D a call = .ok b) :
    ∃ envelope, b.journal.events = a.journal.events ++ [envelope] := by
  simp only [dryRecord, bind_eq_ok, pure_eq_ok, Prod.exists] at h
  obtain ⟨envelope, _, _, _, -, rfl⟩ := h
  exact ⟨envelope, rfl⟩

theorem record_of_dryRecord {a b b' : AuthorityState} {call : RecordCall} (hsame : SameMemory a b)
    (hdry : dryRecord D b call = .ok b') (hio : call.env.io = .done)
    (hlen : ∀ e ∈ b'.journal.events, (C.encode e).length ≤ maxEventLineBytes) :
    ∃ a' envelope patch, a.record C D call.env call.event = (a', .ok (envelope, patch)) ∧ SameMemory a' b' ∧
      Envelops b.journal call.env call.event envelope ∧ b'.journal.events = b.journal.events ++ [envelope] := by
  simp only [dryRecord, bind_eq_ok, pure_eq_ok, Prod.exists] at hdry
  obtain ⟨envelope, operations, projector, patch, htry, rfl⟩ := hdry
  obtain ⟨⟨file, events⟩, ops, projectors⟩ := a
  obtain ⟨⟨file', events'⟩, ops', projectors'⟩ := b
  obtain ⟨rfl, rfl, rfl⟩ := hsame
  have htry' : AuthorityState.tryEvent D ⟨⟨file, events⟩, ops, projectors⟩ call.env call.event =
      .ok (envelope, operations, projector, patch) := htry
  refine ⟨_, envelope, patch, AuthorityState.record_of_tryEvent htry' hio (hlen _ (by simp)), ⟨rfl, rfl, rfl⟩, ?_, rfl⟩
  exact AuthorityState.envelops_of_prepare (AuthorityState.tryEvent_eq_ok.mp htry).2.1

theorem dryAll_events {a b : AuthorityState} {calls : List RecordCall} (h : dryAll D a calls = .ok b) :
    a.journal.events <+: b.journal.events ∧ b.journal.events.length = a.journal.events.length + calls.length := by
  induction calls generalizing a with
  | nil =>
      obtain rfl := Except.ok.inj h
      exact ⟨List.prefix_rfl, rfl⟩
  | cons call calls ih =>
      simp only [dryAll, List.foldlM_cons, bind_eq_ok] at h
      obtain ⟨a', ha', h⟩ := h
      obtain ⟨hhead, hlength⟩ := ih h
      obtain ⟨envelope, hevents⟩ := dryRecord_events ha'
      rw [hevents] at hhead hlength
      refine ⟨(List.prefix_append _ _).trans hhead, ?_⟩
      rw [hlength, List.length_append, List.length_singleton, List.length_cons]
      omega

def dryEvents (D : Digests) (calls : List RecordCall) : List EventEnvelope :=
  match dryAll D emptyAuthority calls with
  | .ok a => a.journal.events
  | .error _ => []

/-- A codec with short lines for the events of a run. -/
noncomputable def sampleCodec (D : Digests) (calls : List RecordCall) : LineCodec EventEnvelope :=
  .short (dryEvents D calls)

theorem sampleCodec_length {b : AuthorityState} {calls : List RecordCall}
    (h : dryAll D emptyAuthority calls = .ok b) (hcalls : calls.length ≤ maxEventLineBytes) :
    ∀ e ∈ b.journal.events, ((sampleCodec D calls).encode e).length ≤ maxEventLineBytes := by
  intro e he
  have hevents : dryEvents D calls = b.journal.events := by rw [dryEvents, h]
  rw [sampleCodec, hevents]
  refine (LineCodec.length_short_encode_le _ he).trans ?_
  rw [(dryAll_events h).2]
  simpa [emptyAuthority] using hcalls

theorem dryAll_of_isSome {a : AuthorityState} {calls : List RecordCall}
    (h : (dryAll D a calls).toOption.isSome = true) : ∃ b, dryAll D a calls = .ok b := by
  cases hb : dryAll D a calls with
  | error e =>
      rw [hb] at h
      exact nomatch h
  | ok b => exact ⟨b, rfl⟩

end HyperTerm.Daemon
