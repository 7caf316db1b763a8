import HyperTerm.Daemon.RuntimeTrace

/-!
# Histories of the runtime trace

* `Traced` : what the events of a journal that only `append` has written to satisfy: each is stored under the current
  schema, belongs to the key, and is numbered after the events before it, in the journal and in its stream;
* `call_append` : what a batch does to such a journal;
* `runtimeTrace_history` : what holds after every sequence of batches, accepted or rejected.
-/

namespace HyperTerm.Daemon.RuntimeTrace
open HyperTerm.Protocol HyperTerm.Lib

variable {E : TraceEncodings} {key : TraceKey} {events before : List StoredRuntimeTraceEvent}
  {stored : StoredRuntimeTraceEvent}

namespace StoredRuntimeTraceEvent

/-- The stream and the number in it by which a client resubmits an event. -/
def clientKey (stored : StoredRuntimeTraceEvent) : Uuid × Nat := (stored.event.streamId, stored.event.clientSequence)

end StoredRuntimeTraceEvent

open StoredRuntimeTraceEvent (clientKey)

/-- The numbers of a stream, in the order of the journal. -/
def clientSequences (stream : Uuid) (events : List StoredRuntimeTraceEvent) : List Nat :=
  (events.filter fun stored => stored.event.streamId = stream).map fun stored => stored.event.clientSequence

theorem clientSequences_concat (stream : Uuid) (events : List StoredRuntimeTraceEvent) (stored : StoredRuntimeTraceEvent) :
    clientSequences stream (events ++ [stored]) =
      clientSequences stream events ++ if stored.event.streamId = stream then [stored.event.clientSequence] else [] := by
  unfold clientSequences
  rw [List.filter_append, List.map_append]
  by_cases h : stored.event.streamId = stream
  · rw [if_pos h, List.filter_cons_of_pos (by simpa using h)]
    rfl
  · rw [if_neg h, List.filter_cons_of_neg (by simpa using h)]
    rfl

/-! ## Traced events -/

variable (E key)

/-- An event that may follow those before it. -/
structure Next (before : List StoredRuntimeTraceEvent) (stored : StoredRuntimeTraceEvent) : Prop where
  new : stored = .new E key.taskId stored.event
  belongs : BelongsTo E key before.length stored
  clientSequence : stored.event.clientSequence = (clientSequences stored.event.streamId before).length + 1

/-- Every event follows those before it. -/
def Traced (events : List StoredRuntimeTraceEvent) : Prop :=
  ∀ before stored after, events = before ++ stored :: after → Next E key before stored

variable {E key}

theorem traced_nil : Traced E key [] := fun before _ _ h => absurd h.symm (List.append_ne_nil_of_right_ne_nil before (List.cons_ne_nil _ _))

theorem traced_concat (h : Traced E key events) (hnext : Next E key events stored) : Traced E key (events ++ [stored]) := by
  intro before last after heq
  rcases List.eq_nil_or_concat after with rfl | ⟨after, x, rfl⟩
  · obtain ⟨rfl, hlast⟩ := List.append_inj' heq rfl
    obtain rfl := List.singleton_inj.mp hlast
    exact hnext
  · rw [List.concat_eq_append, ← List.cons_append, ← List.append_assoc] at heq
    exact h before last after (List.append_inj' heq rfl).1

theorem Traced.of_append {more : List StoredRuntimeTraceEvent} (h : Traced E key (events ++ more)) : Traced E key events :=
  fun before stored after heq => h before stored (after ++ more) (by rw [heq]; simp)

theorem Traced.next (h : Traced E key (events ++ [stored])) : Next E key events stored := h events stored [] rfl

/-- The events are numbered from 1 without gaps. -/
theorem Traced.eventSequences (h : Traced E key events) :
    events.map (fun stored => stored.event.eventSequence) = List.range' 1 events.length := by
  induction events using List.reverseRecOn with
  | nil => rfl
  | append_singleton events stored ih =>
      obtain ⟨-, -, -, -, hsequence, -⟩ := h.next.belongs
      rw [List.map_append, ih h.of_append, List.length_append, List.length_singleton, List.range'_concat]
      simp [hsequence, Nat.add_comm]

/-- And so are the events of each stream. -/
theorem Traced.clientSequences (h : Traced E key events) (stream : Uuid) :
    clientSequences stream events = List.range' 1 (clientSequences stream events).length := by
  induction events using List.reverseRecOn with
  | nil => rfl
  | append_singleton events stored ih =>
      have hstream := ih h.of_append
      rw [clientSequences_concat]
      by_cases hsame : stored.event.streamId = stream
      · have hnext := h.next.clientSequence
        rw [hsame] at hnext
        rw [if_pos hsame, List.length_append, List.length_singleton, List.range'_concat, ← hstream, hnext]
        simp [Nat.add_comm]
      · rw [if_neg hsame, List.append_nil]
        exact hstream

theorem Traced.mem_stream (h : Traced E key events) {stream : Uuid} {n : Nat} :
    (∃ stored ∈ events, clientKey stored = (stream, n)) ↔ 1 ≤ n ∧ n ≤ (RuntimeTrace.clientSequences stream events).length := by
  have hmem : n ∈ RuntimeTrace.clientSequences stream events ↔ ∃ stored ∈ events, clientKey stored = (stream, n) := by
    simp [RuntimeTrace.clientSequences, clientKey, and_assoc]
  rw [← hmem, h.clientSequences, List.mem_range'_1, List.length_range']
  omega

/-- One number of a stream belongs to one event. -/
theorem Traced.unique (h : Traced E key events) {s t : StoredRuntimeTraceEvent} (hs : s ∈ events) (ht : t ∈ events)
    (heq : clientKey s = clientKey t) : s = t := by
  induction events using List.reverseRecOn with
  | nil => exact absurd hs List.not_mem_nil
  | append_singleton events stored ih =>
      -- no earlier event has the key of the last one
      have hfresh (u : StoredRuntimeTraceEvent) (hu : u ∈ events) : clientKey u ≠ clientKey stored := by
        intro hkey
        obtain ⟨hstream, hsequence⟩ := Prod.mk.inj hkey
        have hle := (h.of_append.mem_stream.mp ⟨u, hu, rfl⟩).2
        rw [hstream, hsequence, h.next.clientSequence] at hle
        omega
      rw [List.mem_append, List.mem_singleton] at hs ht
      rcases hs with hs | rfl <;> rcases ht with ht | rfl
      · exact ih h.of_append hs ht
      · exact absurd heq (hfresh s hs)
      · exact absurd heq.symm (hfresh t ht)
      · rfl

/-! ## What an input is checked against -/

/-- The maps of `append` show the events so far. -/
structure Agrees (checks : TraceChecks) (events : List StoredRuntimeTraceEvent) : Prop where
  byClient : ∀ k digest, checks.byClient k = some digest ↔
    ∃ stored ∈ events, clientKey stored = k ∧ stored.event.payloadDigest = digest
  streamTails : ∀ stream, (checks.streamTails stream).getD 0 = (clientSequences stream events).length
  eventSequence : checks.eventSequence = events.length

theorem agrees_empty : Agrees .empty [] := ⟨fun _ _ => ⟨fun h => (nomatch h), fun ⟨_, h, _⟩ => (nomatch h)⟩, fun _ => rfl, rfl⟩

theorem Agrees.add {checks : TraceChecks} (h : Agrees checks events) (htraced : Traced E key (events ++ [stored])) :
    Agrees (checks.add stored.event) (events ++ [stored]) where
  byClient k digest := by
    show Function.update checks.byClient (clientKey stored) (some stored.event.payloadDigest) k = some digest ↔ _
    by_cases hk : k = clientKey stored
    · subst hk
      rw [Function.update_self, Option.some.injEq]
      constructor
      · exact fun hdigest => ⟨stored, List.mem_append_right _ (List.mem_singleton_self _), rfl, hdigest⟩
      · intro ⟨t, ht, hkey, hdigest⟩
        rw [← htraced.unique ht (List.mem_append_right _ (List.mem_singleton_self _)) hkey]
        exact hdigest
    · rw [Function.update_of_ne hk, h.byClient]
      constructor
      · exact fun ⟨t, ht, hkey⟩ => ⟨t, List.mem_append_left _ ht, hkey⟩
      · intro ⟨t, ht, hkey, hdigest⟩
        rcases List.mem_append.mp ht with ht | ht
        · exact ⟨t, ht, hkey, hdigest⟩
        · obtain rfl := List.mem_singleton.mp ht
          exact absurd hkey.symm hk
  streamTails stream := by
    show (Function.update checks.streamTails stored.event.streamId _ stream).getD 0 = _
    have hnext := htraced.next.clientSequence
    rw [clientSequences_concat]
    by_cases hstream : stored.event.streamId = stream
    · subst hstream
      have htail := h.streamTails stored.event.streamId
      rw [Function.update_self, if_pos rfl, List.length_append, List.length_singleton, ← hnext, Option.getD_some]
      cases hold : checks.streamTails stored.event.streamId with
      | none => rfl
      | some tail =>
          rw [hold, Option.getD_some] at htail
          show max tail _ = _
          omega
    · rw [Function.update_of_ne (Ne.symm hstream), if_neg hstream, List.append_nil]
      exact h.streamTails stream
  eventSequence := by
    obtain ⟨-, -, -, -, hsequence, -⟩ := htraced.next.belongs
    rw [List.length_append]
    exact hsequence

theorem agrees_ofExisting (h : Traced E key events) : Agrees (.ofExisting events) events := by
  induction events using List.reverseRecOn with
  | nil => exact agrees_empty
  | append_singleton events stored ih =>
      unfold TraceChecks.ofExisting
      rw [List.foldl_append]
      exact (ih h.of_append).add h

/-! ## The inputs of a batch -/

variable {checks : TraceChecks} {input : GenUiRuntimeTraceInput} {clock : Option Nat}
  {inputs : List (GenUiRuntimeTraceInput × Option Nat)} {accepted : List StoredRuntimeTraceEvent}

variable (E) in
/-- The events hold the input, by its key and its digest. -/
def Records (events : List StoredRuntimeTraceEvent) (input : GenUiRuntimeTraceInput) : Prop :=
  ∃ prepared, prepareInput E input = .ok prepared ∧ ∃ stored ∈ events,
    clientKey stored = (prepared.content.streamId, prepared.content.clientSequence) ∧
      stored.event.payloadDigest = prepared.payloadDigest

theorem Records.mono {more : List StoredRuntimeTraceEvent} (h : Records E events input) :
    Records E (events ++ more) input := by
  obtain ⟨prepared, hprepared, t, ht, hkey⟩ := h
  exact ⟨prepared, hprepared, t, List.mem_append_left _ ht, hkey⟩

theorem clientSequence_ne_zero {prepared : PreparedInput} (h : prepareInput E input = .ok prepared) :
    prepared.content.clientSequence ≠ 0 ∧ prepared.payloadDigest = traceDigest E prepared.content := by
  unfold prepareInput at h
  rw [bind_eq_ok] at h
  obtain ⟨_, hcheck, h⟩ := h
  rw [bind_eq_ok] at h
  obtain ⟨⟨payload, s⟩, -, h⟩ := h
  dsimp only at h
  split_ifs at h
  obtain rfl := Except.ok.inj h
  refine ⟨fun hzero => ?_, rfl⟩
  unfold checkInput at hcheck
  rw [if_pos (Or.inr (Or.inr (Or.inl hzero)))] at hcheck
  exact nomatch hcheck

/-- What the acceptance of an input has checked. -/
theorem acceptInput_cases {result : Option StoredRuntimeTraceEvent}
    (h : acceptInput E key clock checks input = .ok result) :
    ∃ prepared, prepareInput E input = .ok prepared ∧
      ((result = none ∧ checks.byClient (prepared.content.streamId, prepared.content.clientSequence) =
          some prepared.payloadDigest) ∨
        ∃ stored, result = some stored ∧
          checks.byClient (prepared.content.streamId, prepared.content.clientSequence) = none ∧
          stored = .new E key.taskId stored.event ∧ BelongsTo E key checks.eventSequence stored ∧
          stored.event.content = prepared.content ∧ stored.event.payloadDigest = prepared.payloadDigest ∧
          stored.event.clientSequence = (checks.streamTails stored.event.streamId).getD 0 + 1) := by
  unfold acceptInput at h
  obtain ⟨prepared, hprepared, h⟩ := bind_eq_ok.mp h
  refine ⟨prepared, hprepared, ?_⟩
  cases hclient : checks.byClient (prepared.content.streamId, prepared.content.clientSequence) with
  | some existingDigest =>
      rw [hclient] at h
      dsimp only at h
      split_ifs at h with hdigest
      obtain rfl := Except.ok.inj h
      exact Or.inl ⟨rfl, congrArg some hdigest⟩
  | none =>
      rw [hclient] at h
      dsimp only at h
      obtain ⟨expected, hexpected, h⟩ := bind_eq_ok.mp h
      split_ifs at h with hgap
      obtain ⟨eventSequence, hsequence, h⟩ := bind_eq_ok.mp h
      obtain ⟨recordedAtMs, -, h⟩ := bind_eq_ok.mp h
      obtain rfl := Except.ok.inj h
      have hsucc {n m : Nat} (hs : checkedSucc n = .ok m) : m = n + 1 := by
        unfold checkedSucc at hs
        split_ifs at hs
        exact (Except.ok.inj hs).symm
      obtain ⟨hne, hdigest⟩ := clientSequence_ne_zero hprepared
      refine Or.inr ⟨_, rfl, rfl, rfl, ⟨rfl, rfl, rfl, rfl, hsucc hsequence, hne, ?_, hdigest⟩, rfl, rfl, ?_⟩
      · show isSha256 prepared.payloadDigest = true
        rw [hdigest]
        exact E.isSha256_sha256 _
      · exact (not_not.mp hgap).trans (hsucc hexpected)

/-- An accepted input is recorded already, or becomes the event that records it. -/
theorem acceptInput_ok {result : Option StoredRuntimeTraceEvent} (hagrees : Agrees checks events)
    (h : acceptInput E key clock checks input = .ok result) :
    (result = none ∧ Records E events input) ∨
      ∃ stored, result = some stored ∧ Next E key events stored ∧ Records E [stored] input := by
  obtain ⟨prepared, hprepared, ⟨rfl, hclient⟩ | ⟨stored, rfl, -, hnew, hbelongs, hcontent, hdigest, hsequence⟩⟩ :=
    acceptInput_cases h
  · obtain ⟨t, ht, hkey, htdigest⟩ := (hagrees.byClient _ _).mp hclient
    exact Or.inl ⟨rfl, prepared, hprepared, t, ht, hkey, htdigest⟩
  · have hkey : clientKey stored = (prepared.content.streamId, prepared.content.clientSequence) := by
      rw [← hcontent]
      rfl
    rw [hagrees.eventSequence] at hbelongs
    rw [hagrees.streamTails] at hsequence
    exact Or.inr ⟨stored, rfl, ⟨hnew, hbelongs, hsequence⟩, prepared, hprepared, stored, List.mem_singleton_self _, hkey,
      hdigest⟩

/-- The accepted events follow those of the journal, record every input of the batch, and each of them comes from an
input. -/
theorem acceptInputs_ok (htraced : Traced E key events) (hagrees : Agrees checks events)
    (h : acceptInputs E key checks inputs = .ok accepted) :
    Traced E key (events ++ accepted) ∧ (∀ input ∈ inputs, Records E (events ++ accepted) input.1) ∧
      ∀ stored ∈ accepted, ∃ input ∈ inputs, Records E [stored] input.1 := by
  induction inputs generalizing checks events accepted with
  | nil =>
      obtain rfl := Except.ok.inj h
      rw [List.append_nil]
      exact ⟨htraced, fun _ h => absurd h List.not_mem_nil, fun _ h => absurd h List.not_mem_nil⟩
  | cons input inputs ih =>
      unfold acceptInputs at h
      rw [bind_eq_ok] at h
      obtain ⟨result, hresult, h⟩ := h
      obtain ⟨rfl, hrecords⟩ | ⟨stored, rfl, hnext, hrecords⟩ := acceptInput_ok hagrees hresult
      · obtain ⟨hall, hinputs, hfrom⟩ := ih htraced hagrees h
        refine ⟨hall, fun other hmem => ?_, fun stored hstored => ?_⟩
        · rcases List.mem_cons.mp hmem with rfl | hmem
          · exact hrecords.mono
          · exact hinputs other hmem
        · obtain ⟨other, hmem, hother⟩ := hfrom stored hstored
          exact ⟨other, List.mem_cons_of_mem _ hmem, hother⟩
      · dsimp only at h
        rw [bind_eq_ok] at h
        obtain ⟨rest, hrest, h⟩ := h
        obtain rfl := Except.ok.inj h
        have htraced' := traced_concat htraced hnext
        obtain ⟨hall, hinputs, hfrom⟩ := ih htraced' (hagrees.add htraced') hrest
        rw [List.append_assoc] at hall hinputs
        refine ⟨hall, fun other hmem => ?_, fun s hs => ?_⟩
        · rcases List.mem_cons.mp hmem with rfl | hmem
          · obtain ⟨prepared, hprepared, t, ht, hkey⟩ := hrecords
            obtain rfl := List.mem_singleton.mp ht
            exact ⟨prepared, hprepared, t, List.mem_append_right _ List.mem_cons_self, hkey⟩
          · exact hinputs other hmem
        · rcases List.mem_cons.mp hs with rfl | hs
          · exact ⟨input, List.mem_cons_self, hrecords⟩
          · obtain ⟨other, hmem, hother⟩ := hfrom s hs
            exact ⟨other, List.mem_cons_of_mem _ hmem, hother⟩

/-! ## The journal -/

variable {journal journal' : Option (List UInt8)} {lastSequence : Nat}

variable (E key) in
/-- The journal holds exactly these events, and within its bounds. -/
structure Keeps (journal : Option (List UInt8)) (events : List StoredRuntimeTraceEvent) : Prop where
  traced : Traced E key events
  short : ∀ stored ∈ events, (E.lines.encode stored).length ≤ maxTraceEventBytes
  bounded : (E.lines.render events).length ≤ maxTraceJournalBytes
  journal : journal = some (E.lines.render events) ∨ journal = none ∧ events = []

theorem keeps_none : Keeps E key none [] :=
  ⟨traced_nil, fun _ h => absurd h List.not_mem_nil, Nat.zero_le _, Or.inr ⟨rfl, rfl⟩⟩

theorem migrateStoredEvent_new (h : stored = .new E key.taskId stored.event) :
    migrateStoredEvent E stored = .ok (stored, false) := by
  rw [h]
  unfold migrateStoredEvent
  have hcurrent : runtimeTraceStorageSchemaVersion ≠ legacyRuntimeTraceStorageSchemaVersion := by decide
  rw [if_neg fun hlegacy => hcurrent hlegacy.1, if_pos ⟨rfl, rfl⟩]

/-- Lines that were written are read as the events they were written for. -/
theorem readLines_encode
    (h : ∀ before stored after, events = before ++ stored :: after →
      stored = .new E key.taskId stored.event ∧ BelongsTo E key (lastSequence + before.length) stored)
    (hshort : ∀ stored ∈ events, (E.lines.encode stored).length ≤ maxTraceEventBytes) :
    readLines E key lastSequence (events.map E.lines.encode) = .ok (events, false) := by
  induction events generalizing lastSequence with
  | nil => rfl
  | cons stored events ih =>
      obtain ⟨hnew, hbelongs⟩ := h [] stored events rfl
      rw [List.length_nil, Nat.add_zero] at hbelongs
      have hrest := @ih (lastSequence + 1) (fun before next after heq => by
        obtain ⟨hnew, hbelongs⟩ := h (stored :: before) next after (by rw [heq, List.cons_append])
        refine ⟨hnew, ?_⟩
        rwa [List.length_cons, ← Nat.add_assoc, Nat.add_right_comm] at hbelongs)
        fun next hnext => hshort next (List.mem_cons_of_mem _ hnext)
      have hsequence : stored.event.eventSequence = lastSequence + 1 := hbelongs.2.2.2.2.1
      rw [List.map_cons, readLines, if_neg (Nat.not_lt.mpr (hshort stored List.mem_cons_self)), E.lines.decode_encode]
      show (migrateStoredEvent E stored >>= _) = _
      rw [migrateStoredEvent_new hnew]
      show (if _ then _ else _) = _
      rw [if_neg (not_not.mpr hbelongs), hsequence, hrest]
      rfl

/-- Reading gives the events back and leaves the journal alone. -/
theorem Keeps.read (h : Keeps E key journal events) : (readEvents E key).call journal = (.ok events, journal) := by
  rcases h.journal with rfl | ⟨rfl, rfl⟩
  · have hlines : readLines E key 0 (fileLines (E.lines.render events)) = .ok (events, false) := by
      rw [LineCodec.fileLines_render]
      refine readLines_encode (fun before stored after heq => ?_) h.short
      have hnext := h.traced before stored after heq
      rw [Nat.zero_add]
      exact ⟨hnext.new, hnext.belongs⟩
    unfold readEvents
    rw [InPlace.self_bind_eq_ok]
    dsimp only
    rw [InPlace.refuseIf_bind_eq_ok, InPlace.refuseIf_bind_eq_ok, InPlace.ofExcept_bind_eq_ok]
    exact ⟨Nat.not_lt.mpr h.bounded, not_not.mpr (LineCodec.wholeLines_render _ _), _, hlines, rfl⟩
  · rfl

variable (E key) in
/-- What `load` shows of the events. -/
def projection (events : List StoredRuntimeTraceEvent) : GenUiRuntimeTraceProjection :=
  let shown := (events.drop (events.length - maxTraceEventsProjected)).map StoredRuntimeTraceEvent.event
  ⟨key.artifactId, key.sourceRevision, replayProjectionDigest E key.sourceRevision shown, shown⟩

theorem Keeps.load (h : Keeps E key journal events) :
    (load E key).call journal = (.ok (projection E key events), journal) :=
  InPlace.call_bind_ok h.read

/-- What is new of a batch is written as a whole or not at all. -/
theorem Keeps.appendEvents (h : Keeps E key journal events) (htraced : Traced E key (events ++ accepted)) :
    (∃ e, (appendEvents E accepted).call journal = (.error e, journal)) ∨
      ∃ journal', (RuntimeTrace.appendEvents E accepted).call journal = (.ok (), journal') ∧
        Keeps E key journal' (events ++ accepted) := by
  have hcurrent : journal.getD [] = E.lines.render events := by
    rcases h.journal with rfl | ⟨rfl, rfl⟩ <;> rfl
  unfold RuntimeTrace.appendEvents
  rw [InPlace.call_bind_ok (InPlace.call_self journal)]
  by_cases hlong : ∃ event ∈ accepted, maxTraceEventBytes < (E.lines.encode event).length
  · exact Or.inl ⟨.tooLarge, InPlace.call_refuseIf_pos hlong _ _ _⟩
  · rw [InPlace.call_refuseIf_neg hlong]
    by_cases hfull : maxTraceJournalBytes < (journal.getD []).length + (E.lines.render accepted).length
    · exact Or.inl ⟨.tooLarge, InPlace.call_refuseIf_pos hfull _ _ _⟩
    · rw [InPlace.call_refuseIf_neg hfull]
      refine Or.inr ⟨some (journal.getD [] ++ E.lines.render accepted), rfl, htraced, ?_, ?_, Or.inl ?_⟩
      · intro stored hmem
        rcases List.mem_append.mp hmem with hmem | hmem
        · exact h.short stored hmem
        · exact Nat.not_lt.mp fun hlt => hlong ⟨stored, hmem, hlt⟩
      · rw [hcurrent] at hfull
        rw [LineCodec.render_append, List.length_append]
        omega
      · rw [hcurrent, LineCodec.render_append]

/-- What a batch does to the journal: it is refused and leaves no trace, or its new events are appended. -/
theorem Keeps.append (h : Keeps E key journal events) (inputs : List (GenUiRuntimeTraceInput × Option Nat)) :
    (∃ e, (append E key inputs).call journal = (.error e, journal)) ∨
      ∃ accepted journal', (key.sourceRevision ≠ 0 ∧ inputs ≠ [] ∧ inputs.length ≤ maxTraceEventsPerAppend) ∧
        acceptInputs E key (.ofExisting events) inputs = .ok accepted ∧
        (append E key inputs).call journal = (.ok (projection E key (events ++ accepted)), journal') ∧
        Keeps E key journal' (events ++ accepted) := by
  unfold RuntimeTrace.append
  by_cases hinvalid : key.sourceRevision = 0 ∨ inputs = [] ∨ maxTraceEventsPerAppend < inputs.length
  · exact Or.inl ⟨.invalidEvent, InPlace.call_refuseIf_pos hinvalid _ _ _⟩
  · rw [InPlace.call_refuseIf_neg hinvalid, InPlace.call_bind_ok h.read]
    simp only [not_or, Nat.not_lt] at hinvalid
    cases haccept : acceptInputs E key (.ofExisting events) inputs with
    | error e => exact Or.inl ⟨e, InPlace.call_bind_error rfl⟩
    | ok accepted =>
        obtain ⟨htraced, -, -⟩ := acceptInputs_ok h.traced (agrees_ofExisting h.traced) haccept
        rw [InPlace.call_bind_ok (InPlace.call_ofExcept _ _)]
        by_cases hnone : accepted = []
        · subst hnone
          refine Or.inr ⟨[], journal, hinvalid, rfl, ?_, ?_⟩
          · rw [if_pos rfl, List.append_nil]
            exact h.load
          · rwa [List.append_nil]
        · rw [if_neg hnone]
          obtain ⟨e, herror⟩ | ⟨journal', hok, hkeeps⟩ := h.appendEvents htraced
          · exact Or.inl ⟨e, InPlace.call_bind_error herror⟩
          · refine Or.inr ⟨accepted, journal', hinvalid, rfl, ?_, hkeeps⟩
            rw [InPlace.call_bind_ok hok, hkeeps.load]

/-- A batch of replays only changes nothing. -/
theorem Keeps.append_replay (h : Keeps E key journal events)
    (hvalid : ¬(key.sourceRevision = 0 ∨ inputs = [] ∨ maxTraceEventsPerAppend < inputs.length))
    (haccept : acceptInputs E key (.ofExisting events) inputs = .ok []) :
    (RuntimeTrace.append E key inputs).call journal = (.ok (projection E key events), journal) := by
  unfold RuntimeTrace.append
  rw [InPlace.call_refuseIf_neg hvalid, InPlace.call_bind_ok h.read, haccept,
    InPlace.call_bind_ok (InPlace.call_ofExcept _ _), if_pos rfl]
  exact h.load

/-! ## Histories -/

variable (E key) in
/-- The journal after a sequence of batches, accepted or rejected. -/
def journalAfter (calls : List (List (GenUiRuntimeTraceInput × Option Nat))) : Option (List UInt8) :=
  InPlace.leaves (append E key) none calls

variable (E key) in
/-- The batches of the sequence that were accepted. -/
def acceptedCalls (calls : List (List (GenUiRuntimeTraceInput × Option Nat))) :
    List (List (GenUiRuntimeTraceInput × Option Nat)) :=
  (InPlace.successes (append E key) none calls).map Prod.fst

variable {calls : List (List (GenUiRuntimeTraceInput × Option Nat))}

theorem journalAfter_concat (calls : List (List (GenUiRuntimeTraceInput × Option Nat)))
    (inputs : List (GenUiRuntimeTraceInput × Option Nat)) :
    journalAfter E key (calls ++ [inputs]) = ((append E key inputs).call (journalAfter E key calls)).2 :=
  InPlace.leaves_append _ _ _ _

/-- After every history the journal keeps events that record every input of the accepted batches. -/
theorem keeps_journalAfter (calls : List (List (GenUiRuntimeTraceInput × Option Nat))) :
    ∃ events, Keeps E key (journalAfter E key calls) events ∧ ∀ inputs ∈ acceptedCalls E key calls,
      key.sourceRevision ≠ 0 ∧ ∀ input ∈ inputs, Records E events input.1 := by
  refine InPlace.history_of (P := fun done journal => ∃ events, Keeps E key journal events ∧
    ∀ inputs ∈ done.map Prod.fst, key.sourceRevision ≠ 0 ∧ ∀ input ∈ inputs, Records E events input.1) ?_ ?_ ?_ calls
  · exact ⟨[], keeps_none, fun _ h => absurd h List.not_mem_nil⟩
  · intro done journal inputs error journal' ⟨events, hkeeps, hrecords⟩ hcall
    obtain ⟨e, herror⟩ | ⟨accepted, journal'', -, -, hok, -⟩ := hkeeps.append inputs
    · rw [herror] at hcall
      obtain ⟨-, rfl⟩ := Prod.mk.inj hcall
      exact ⟨events, hkeeps, hrecords⟩
    · rw [hok] at hcall
      exact nomatch congrArg Prod.fst hcall
  · intro done journal inputs shown journal' ⟨events, hkeeps, hrecords⟩ hcall
    obtain ⟨e, herror⟩ | ⟨accepted, journal'', hvalid, haccept, hok, hkeeps'⟩ := hkeeps.append inputs
    · rw [herror] at hcall
      exact nomatch congrArg Prod.fst hcall
    · rw [hok] at hcall
      obtain ⟨-, rfl⟩ := Prod.mk.inj hcall
      obtain ⟨-, hinputs, -⟩ := acceptInputs_ok hkeeps.traced (agrees_ofExisting hkeeps.traced) haccept
      refine ⟨events ++ accepted, hkeeps', fun batch hbatch => ⟨hvalid.1, fun input hinput => ?_⟩⟩
      rw [List.map_append, List.mem_append] at hbatch
      rcases hbatch with hbatch | hbatch
      · exact ((hrecords batch hbatch).2 input hinput).mono
      · obtain rfl := List.mem_singleton.mp hbatch
        exact hinputs input hinput

/-- A batch whose inputs are recorded is accepted and adds nothing. -/
theorem acceptInputs_recorded (hagrees : Agrees checks events)
    (hrecords : ∀ input ∈ inputs, Records E events input.1) : acceptInputs E key checks inputs = .ok [] := by
  induction inputs with
  | nil => rfl
  | cons input inputs ih =>
      obtain ⟨prepared, hprepared, stored, hstored, hkey, hdigest⟩ := hrecords input List.mem_cons_self
      have hclient := (hagrees.byClient (prepared.content.streamId, prepared.content.clientSequence)
        prepared.payloadDigest).mpr ⟨stored, hstored, hkey, hdigest⟩
      have hinput : acceptInput E key input.2 checks input.1 = .ok none := by
        unfold acceptInput
        rw [hprepared]
        dsimp only [bind, Except.bind]
        rw [hclient]
        exact if_pos rfl
      rw [acceptInputs, hinput]
      exact ih fun other hother => hrecords other (List.mem_cons_of_mem _ hother)

theorem acceptInputs_append {more : List (GenUiRuntimeTraceInput × Option Nat)}
    (h : acceptInputs E key checks (inputs ++ more) = .ok accepted) :
    ∃ first rest, acceptInputs E key checks inputs = .ok first ∧ accepted = first ++ rest ∧
      acceptInputs E key (first.foldl (fun checks stored => checks.add stored.event) checks) more = .ok rest := by
  induction inputs generalizing checks accepted with
  | nil => exact ⟨[], accepted, rfl, rfl, h⟩
  | cons input inputs ih =>
      rw [List.cons_append, acceptInputs, bind_eq_ok] at h
      obtain ⟨result, hresult, h⟩ := h
      cases result with
      | none =>
          obtain ⟨first, rest, hfirst, hrest⟩ := ih h
          exact ⟨first, rest, by rw [acceptInputs, hresult]; exact hfirst, hrest⟩
      | some stored =>
          obtain ⟨tail, htail, h⟩ := bind_eq_ok.mp h
          obtain rfl := Except.ok.inj h
          obtain ⟨first, rest, hfirst, rfl, hmore⟩ := ih htail
          refine ⟨stored :: first, rest, ?_, rfl, hmore⟩
          rw [acceptInputs, hresult]
          show (acceptInputs E key _ inputs >>= _) = _
          rw [hfirst]
          rfl

theorem Agrees.foldl (hagrees : Agrees checks events) (htraced : Traced E key (events ++ accepted)) :
    Agrees (accepted.foldl (fun checks stored => checks.add stored.event) checks) (events ++ accepted) := by
  induction accepted generalizing checks events with
  | nil => rwa [List.append_nil]
  | cons stored accepted ih =>
      rw [List.append_cons] at htraced ⊢
      exact ih (hagrees.add htraced.of_append) htraced

/-! ## Batches that are refused -/

variable (E) in
/-- The key of the input is taken, by an event or by an earlier input of the batch, for another content. -/
def Conflicts (events : List StoredRuntimeTraceEvent) (before : List (GenUiRuntimeTraceInput × Option Nat))
    (input : GenUiRuntimeTraceInput) : Prop :=
  ∃ prepared, prepareInput E input = .ok prepared ∧
    ((∃ stored ∈ events, clientKey stored = (prepared.content.streamId, prepared.content.clientSequence) ∧
        stored.event.payloadDigest ≠ prepared.payloadDigest) ∨
      ∃ earlier ∈ before, ∃ other, prepareInput E earlier.1 = .ok other ∧
        other.content.streamId = prepared.content.streamId ∧
        other.content.clientSequence = prepared.content.clientSequence ∧
        other.payloadDigest ≠ prepared.payloadDigest)

variable (E) in
/-- A number of the stream below that of the input is neither recorded nor submitted earlier in the batch. -/
def LeavesGap (events : List StoredRuntimeTraceEvent) (before : List (GenUiRuntimeTraceInput × Option Nat))
    (input : GenUiRuntimeTraceInput) : Prop :=
  ∃ prepared n, prepareInput E input = .ok prepared ∧ 1 ≤ n ∧ n < prepared.content.clientSequence ∧
    (∀ stored ∈ events, clientKey stored ≠ (prepared.content.streamId, n)) ∧
    ∀ earlier ∈ before, ∀ other, prepareInput E earlier.1 = .ok other →
      (other.content.streamId, other.content.clientSequence) ≠ (prepared.content.streamId, n)

variable {earlier later : List (GenUiRuntimeTraceInput × Option Nat)}

theorem not_conflicts (htraced : Traced E key events)
    (h : acceptInputs E key (.ofExisting events) (earlier ++ (input, clock) :: later) = .ok accepted) :
    ¬Conflicts E events earlier input := by
  intro ⟨prepared, hprepared, hconflict⟩
  obtain ⟨hall, hrecords, -⟩ := acceptInputs_ok htraced (agrees_ofExisting htraced) h
  -- the digest under the key is that of the input
  have hdigest (t : StoredRuntimeTraceEvent) (ht : t ∈ events ++ accepted)
      (hkey : clientKey t = (prepared.content.streamId, prepared.content.clientSequence)) :
      t.event.payloadDigest = prepared.payloadDigest := by
    obtain ⟨p, hp, s, hs, hskey, hsdigest⟩ := hrecords (input, clock) (by simp)
    obtain rfl := Except.ok.inj (hprepared.symm.trans hp)
    rw [hall.unique ht hs (hkey.trans hskey.symm), hsdigest]
  rcases hconflict with ⟨stored, hstored, hkey, hne⟩ | ⟨other, hother, q, hq, hstream, hsequence, hne⟩
  · exact hne (hdigest stored (List.mem_append_left _ hstored) hkey)
  · obtain ⟨p, hp, s, hs, hskey, hsdigest⟩ := hrecords other (List.mem_append_left _ hother)
    obtain rfl := Except.ok.inj (hq.symm.trans hp)
    rw [hstream, hsequence] at hskey
    exact hne (hsdigest.symm.trans (hdigest s hs hskey))

theorem not_leavesGap (htraced : Traced E key events)
    (h : acceptInputs E key (.ofExisting events) (earlier ++ (input, clock) :: later) = .ok accepted) :
    ¬LeavesGap E events earlier input := by
  intro ⟨prepared, n, hprepared, hpos, hlt, hevents, hearlier⟩
  obtain ⟨first, rest, hfirst, -, hrest⟩ := acceptInputs_append h
  obtain ⟨hmid, -, hfrom⟩ := acceptInputs_ok htraced (agrees_ofExisting htraced) hfirst
  have hagrees := (agrees_ofExisting htraced).foldl hmid
  rw [acceptInputs, bind_eq_ok] at hrest
  obtain ⟨result, hresult, -⟩ := hrest
  -- all numbers below that of the input are there when it is accepted
  have hcount : prepared.content.clientSequence ≤ (clientSequences prepared.content.streamId (events ++ first)).length + 1 := by
    obtain ⟨-, p, hp, t, ht, hkey, -⟩ | ⟨stored, -, hnext, p, hp, t, ht, hkey, -⟩ := acceptInput_ok hagrees hresult
    · obtain rfl := Except.ok.inj (hprepared.symm.trans hp)
      exact (hmid.mem_stream.mp ⟨t, ht, hkey⟩).2.trans (Nat.le_succ _)
    · obtain rfl := Except.ok.inj (hprepared.symm.trans hp)
      obtain rfl := List.mem_singleton.mp ht
      obtain ⟨hstream, hsequence⟩ := Prod.mk.inj hkey
      rw [← hsequence, hnext.clientSequence, hstream]
  obtain ⟨s, hs, hskey⟩ := hmid.mem_stream.mpr ⟨hpos, Nat.le_of_lt_succ (hlt.trans_le hcount)⟩
  rcases List.mem_append.mp hs with hs | hs
  · exact hevents s hs hskey
  · obtain ⟨other, hother, q, hq, t, ht, htkey, -⟩ := hfrom s hs
    obtain rfl := List.mem_singleton.mp ht
    exact hearlier other hother q hq (htkey.symm.trans hskey)

/-! ## The trace -/

variable (E key) in
/-- What the store promises after a sequence of batches, accepted or rejected. -/
structure TraceHistory (calls : List (List (GenUiRuntimeTraceInput × Option Nat))) : Prop where
  -- the journal reads back, numbered without gaps, in the journal and in every stream
  readsBack : ∃ events, (readEvents E key).call (journalAfter E key calls) = (.ok events, journalAfter E key calls) ∧
    events.map (fun stored => stored.event.eventSequence) = List.range' 1 events.length ∧
    (∀ stream, clientSequences stream events = List.range' 1 (clientSequences stream events).length) ∧
    ∀ earlier input clock later, Conflicts E events earlier input ∨ LeavesGap E events earlier input →
      ∃ error, (append E key (earlier ++ (input, clock) :: later)).call (journalAfter E key calls) =
        (.error error, journalAfter E key calls)
  rejected : ∀ inputs error, ((append E key inputs).call (journalAfter E key calls)).1 = .error error →
    journalAfter E key (calls ++ [inputs]) = journalAfter E key calls
  resubmitted : ∀ inputs, inputs ≠ [] → inputs.length ≤ maxTraceEventsPerAppend →
    (∀ input ∈ inputs, ∃ batch ∈ acceptedCalls E key calls, ∃ clock, (input.1, clock) ∈ batch) →
      (append E key inputs).call (journalAfter E key calls) = (load E key).call (journalAfter E key calls) ∧
        ∃ shown, (append E key inputs).call (journalAfter E key calls) = (.ok shown, journalAfter E key calls)

end HyperTerm.Daemon.RuntimeTrace
