import HyperTerm.Daemon.RuntimeTraceHistory
import Mathlib.Data.Finset.Card
import Mathlib.Tactic.DeriveCountable

/-!
# The replay identity of a runtime trace

The digest of a projection leaves out console messages and errors, and is of the last events of the journal only. The
journal here is any that is read: nothing is asked of how it came to be.

* `Holds` : a journal that reads as given events and is left alone by it;
* `appended` : what an accepted batch leaves;
* `observational_append_iff` : a batch of console messages and errors keeps the digest just when it pushes no other event
  out of what is shown.
-/

namespace HyperTerm.Daemon.RuntimeTrace
open HyperTerm.Protocol HyperTerm.Lib
open StoredRuntimeTraceEvent (clientKey)

variable {E : TraceEncodings} {key : TraceKey} {events : List StoredRuntimeTraceEvent}
  {stored : StoredRuntimeTraceEvent} {lastSequence : Nat} {lines : List (List UInt8)} {migrated : Bool}

/-! ## Numbered events -/

variable (E key) in
/-- The events are of the current schema and of the key, and are numbered from the given one on. -/
def Numbered : Nat → List StoredRuntimeTraceEvent → Prop
  | _, [] => True
  | lastSequence, stored :: events =>
      (stored = .new E key.taskId stored.event ∧ BelongsTo E key lastSequence stored) ∧ Numbered (lastSequence + 1) events

theorem numbered_append {more : List StoredRuntimeTraceEvent} :
    Numbered E key lastSequence (events ++ more) ↔
      Numbered E key lastSequence events ∧ Numbered E key (lastSequence + events.length) more := by
  induction events generalizing lastSequence with
  | nil => simp [Numbered]
  | cons stored events ih =>
      rw [List.cons_append, Numbered, ih, Numbered, List.length_cons, ← and_assoc, Nat.add_assoc lastSequence 1,
        Nat.add_comm 1]

theorem BelongsTo.eventSequence (h : BelongsTo E key lastSequence stored) :
    stored.event.eventSequence = lastSequence + 1 := by
  obtain ⟨-, -, -, -, hsequence, -⟩ := h
  exact hsequence

/-- What an event is after it was read is of the current schema. -/
theorem migrateStoredEvent_ok {read : StoredRuntimeTraceEvent} (h : migrateStoredEvent E stored = .ok (read, migrated)) :
    read = .new E read.taskId read.event ∧ (migrated = false → read = stored) := by
  unfold migrateStoredEvent at h
  dsimp only at h
  split at h
  · obtain ⟨rfl, rfl⟩ := Prod.mk.inj (Except.ok.inj h)
    exact ⟨rfl, fun hfalse => (nomatch hfalse)⟩
  split at h
  · rename_i hcurrent
    obtain ⟨rfl, rfl⟩ := Prod.mk.inj (Except.ok.inj h)
    refine ⟨?_, fun _ => rfl⟩
    obtain ⟨version, taskId, digest, event⟩ := stored
    obtain ⟨hversion, hdigest⟩ := hcurrent
    dsimp only at hversion hdigest
    subst hversion hdigest
    rfl
  split at h <;> cases h

theorem numbered_of_readLines (h : readLines E key lastSequence lines = .ok (events, migrated)) :
    Numbered E key lastSequence events := by
  induction lines generalizing lastSequence events migrated with
  | nil =>
      obtain ⟨rfl, -⟩ := Prod.mk.inj (Except.ok.inj h)
      trivial
  | cons line lines ih =>
      rw [readLines] at h
      split at h
      · cases h
      obtain ⟨decoded, -, h⟩ := bind_eq_ok.mp h
      obtain ⟨⟨read, migrated⟩, hmigrate, h⟩ := bind_eq_ok.mp h
      dsimp only at h
      split at h
      · cases h
      rename_i hbelongs
      rw [not_not] at hbelongs
      obtain ⟨⟨rest, required⟩, hrest, h⟩ := bind_eq_ok.mp h
      obtain ⟨rfl, -⟩ := Prod.mk.inj (Except.ok.inj h)
      have hnew := (migrateStoredEvent_ok hmigrate).1
      rw [hbelongs.1] at hnew
      rw [hbelongs.eventSequence] at hrest
      exact ⟨⟨hnew, hbelongs⟩, ih hrest⟩

/-- Lines after other lines are read from where those ended. -/
theorem readLines_append (h : readLines E key lastSequence lines = .ok (events, false)) (more : List (List UInt8)) :
    readLines E key lastSequence (lines ++ more) =
      (readLines E key (lastSequence + events.length) more).map fun read => (events ++ read.1, read.2) := by
  induction lines generalizing lastSequence events with
  | nil =>
      obtain ⟨rfl, -⟩ := Prod.mk.inj (Except.ok.inj h)
      rw [List.nil_append, List.length_nil, Nat.add_zero]
      cases readLines E key lastSequence more <;> rfl
  | cons line lines ih =>
      rw [List.cons_append, readLines]
      rw [readLines] at h
      split at h
      · cases h
      rename_i hshort
      obtain ⟨decoded, hdecode, h⟩ := bind_eq_ok.mp h
      obtain ⟨⟨read, migrated⟩, hmigrate, h⟩ := bind_eq_ok.mp h
      dsimp only at h
      split at h
      · cases h
      rename_i hbelongs
      have hsequence := (not_not.mp hbelongs).eventSequence
      obtain ⟨⟨rest, required⟩, hrest, h⟩ := bind_eq_ok.mp h
      obtain ⟨rfl, hmigrated⟩ := Prod.mk.inj (Except.ok.inj h)
      rw [Bool.or_eq_false_iff] at hmigrated
      obtain ⟨rfl, rfl⟩ := hmigrated
      rw [hsequence] at hrest
      rw [if_neg hshort, hdecode]
      simp only [bind, Except.bind, hmigrate, if_neg hbelongs, hsequence, ih hrest, List.length_cons]
      rw [show lastSequence + (rest.length + 1) = lastSequence + 1 + rest.length by omega]
      cases readLines E key (lastSequence + 1 + rest.length) more <;> rfl

theorem readLines_numbered (h : Numbered E key lastSequence events)
    (hshort : ∀ stored ∈ events, (E.lines.encode stored).length ≤ maxTraceEventBytes) :
    readLines E key lastSequence (events.map E.lines.encode) = .ok (events, false) := by
  refine readLines_encode (fun before stored after heq => ?_) hshort
  rw [heq] at h
  exact (numbered_append.mp h).2.1

/-! ## Journals that are read -/

variable {journal journal' : Option (List UInt8)} {accepted : List StoredRuntimeTraceEvent}
  {shown : GenUiRuntimeTraceProjection}

variable (E key) in
/-- The journal reads as these events, and needs no migration. -/
structure Holds (journal : Option (List UInt8)) (events : List StoredRuntimeTraceEvent) : Prop where
  bounded : (journal.getD []).length ≤ maxTraceJournalBytes
  whole : WholeLines (journal.getD [])
  lines : readLines E key 0 (fileLines (journal.getD [])) = .ok (events, false)

theorem Holds.numbered (h : Holds E key journal events) : Numbered E key 0 events := numbered_of_readLines h.lines

theorem Holds.read (h : Holds E key journal events) : (readEvents E key).call journal = (.ok events, journal) := by
  cases journal with
  | none =>
      obtain ⟨rfl, -⟩ := Prod.mk.inj (Except.ok.inj h.lines)
      rfl
  | some encoded =>
      have hlines : readLines E key 0 (fileLines encoded) = .ok (events, false) := h.lines
      unfold readEvents
      rw [InPlace.self_bind_eq_ok]
      dsimp only
      rw [InPlace.refuseIf_bind_eq_ok, InPlace.refuseIf_bind_eq_ok, InPlace.ofExcept_bind_eq_ok]
      exact ⟨Nat.not_lt.mpr h.bounded, not_not.mpr h.whole, _, hlines, rfl⟩

theorem Holds.load (h : Holds E key journal events) :
    (load E key).call journal = (.ok (projection E key events), journal) := InPlace.call_bind_ok h.read

/-- Rewritten events are read as they are. -/
theorem holds_render (h : Numbered E key 0 events)
    (hshort : ∀ stored ∈ events, (E.lines.encode stored).length ≤ maxTraceEventBytes)
    (hbounded : (E.lines.render events).length ≤ maxTraceJournalBytes) :
    Holds E key (some (E.lines.render events)) events where
  bounded := hbounded
  whole := LineCodec.wholeLines_render _ _
  lines := by
    show readLines E key 0 (fileLines (E.lines.render events)) = _
    rw [LineCodec.fileLines_render]
    exact readLines_numbered h hshort

/-- Whatever the journal was, a read that succeeds leaves one that holds what was read. -/
theorem holds_of_readEvents (h : (readEvents E key).call journal = (.ok events, journal')) : Holds E key journal' events := by
  unfold readEvents at h
  rw [InPlace.self_bind_eq_ok] at h
  cases journal with
  | none =>
      obtain ⟨hevents, rfl⟩ := Prod.mk.inj h
      obtain rfl := Except.ok.inj hevents
      exact ⟨Nat.zero_le _, Or.inl rfl, rfl⟩
  | some encoded =>
      dsimp only at h
      rw [InPlace.refuseIf_bind_eq_ok, InPlace.refuseIf_bind_eq_ok, InPlace.ofExcept_bind_eq_ok] at h
      obtain ⟨hbounded, hwhole, ⟨read, migrated⟩, hlines, h⟩ := h
      dsimp only at h
      cases migrated with
      | false =>
          obtain ⟨hevents, rfl⟩ := Prod.mk.inj h
          obtain rfl := Except.ok.inj hevents
          exact ⟨Nat.le_of_not_lt hbounded, not_not.mp hwhole, hlines⟩
      | true =>
          rw [if_pos rfl, InPlace.call_bind_eq_ok] at h
          obtain ⟨⟨⟩, replaced, hreplace, h⟩ := h
          obtain ⟨hevents, rfl⟩ := Prod.mk.inj h
          obtain rfl := Except.ok.inj hevents
          unfold replaceEvents at hreplace
          rw [InPlace.refuseIf_bind_eq_ok, InPlace.refuseIf_bind_eq_ok] at hreplace
          obtain ⟨hlong, hfull, hmodify⟩ := hreplace
          obtain ⟨-, rfl⟩ := Prod.mk.inj hmodify
          refine holds_render (numbered_of_readLines hlines) (fun stored hmem => ?_) (Nat.le_of_not_lt hfull)
          exact Nat.le_of_not_lt fun hlt => hlong ⟨stored, hmem, hlt⟩

/-- What is appended is read after the rest. -/
theorem Holds.appendEvents (h : Holds E key journal events) (hnumbered : Numbered E key events.length accepted)
    (happend : (appendEvents E accepted).call journal = (.ok (), journal')) : Holds E key journal' (events ++ accepted) := by
  unfold RuntimeTrace.appendEvents at happend
  rw [InPlace.call_bind_ok (InPlace.call_self journal), InPlace.refuseIf_bind_eq_ok, InPlace.refuseIf_bind_eq_ok]
    at happend
  obtain ⟨hlong, hfull, hmodify⟩ := happend
  obtain ⟨-, rfl⟩ := Prod.mk.inj hmodify
  have hshort (stored) (hmem : stored ∈ accepted) : (E.lines.encode stored).length ≤ maxTraceEventBytes :=
    Nat.le_of_not_lt fun hlt => hlong ⟨stored, hmem, hlt⟩
  constructor
  · rw [Option.getD_some, List.length_append]
    exact Nat.le_of_not_lt hfull
  · rw [Option.getD_some]
    exact h.whole.append (LineCodec.wholeLines_render _ _)
  · rw [Option.getD_some, fileLines_wholeLines_append h.whole, LineCodec.fileLines_render, readLines_append h.lines,
      Nat.zero_add, readLines_numbered hnumbered hshort]
    rfl

/-! ## Batches -/

variable {checks : TraceChecks} {input : GenUiRuntimeTraceInput} {inputs : List (GenUiRuntimeTraceInput × Option Nat)}
  {keys : Finset (Uuid × Nat)}

/-- The stream and the number in it under which an input is submitted. -/
def GenUiRuntimeTraceInput.clientKey (input : GenUiRuntimeTraceInput) : Uuid × Nat :=
  (input.streamId, input.clientSequence)

def storedKeys (events : List StoredRuntimeTraceEvent) : Finset (Uuid × Nat) := (events.map clientKey).toFinset

/-- The keys of a batch, each counted once. -/
def inputKeys (inputs : List (GenUiRuntimeTraceInput × Option Nat)) : Finset (Uuid × Nat) :=
  (inputs.map fun input => input.1.clientKey).toFinset

/-- How many inputs of a batch are no replays. -/
def newInputs (events : List StoredRuntimeTraceEvent) (inputs : List (GenUiRuntimeTraceInput × Option Nat)) : Nat :=
  (inputKeys inputs \ storedKeys events).card

theorem prepareInput_content {prepared : PreparedInput} (h : prepareInput E input = .ok prepared) :
    prepared.content.streamId = input.streamId ∧ prepared.content.clientSequence = input.clientSequence ∧
      prepared.content.kind = input.kind := by
  unfold prepareInput at h
  obtain ⟨_, -, h⟩ := bind_eq_ok.mp h
  obtain ⟨_, -, h⟩ := bind_eq_ok.mp h
  dsimp only at h
  split at h
  · cases h
  · obtain rfl := Except.ok.inj h
    exact ⟨rfl, rfl, rfl⟩

/-- What the batch is checked against: the keys so far, and the number of the last event. -/
structure Seen (checks : TraceChecks) (keys : Finset (Uuid × Nat)) (lastSequence : Nat) : Prop where
  byClient : ∀ k, checks.byClient k = none ↔ k ∉ keys
  eventSequence : checks.eventSequence = lastSequence

theorem Seen.add (h : Seen checks keys lastSequence) (hbelongs : BelongsTo E key lastSequence stored) :
    Seen (checks.add stored.event) (insert (clientKey stored) keys) (lastSequence + 1) where
  byClient k := by
    show Function.update checks.byClient (clientKey stored) (some stored.event.payloadDigest) k = none ↔ _
    rw [Finset.mem_insert, not_or, ← h.byClient]
    by_cases hk : k = clientKey stored
    · subst hk
      simp
    · rw [Function.update_of_ne hk]
      exact ⟨fun hnone => ⟨hk, hnone⟩, fun hboth => hboth.2⟩
  eventSequence := hbelongs.eventSequence

theorem seen_foldl (hseen : Seen checks keys lastSequence) (h : Numbered E key lastSequence events) :
    Seen (events.foldl (fun checks stored => checks.add stored.event) checks) (storedKeys events ∪ keys)
      (lastSequence + events.length) := by
  induction events generalizing checks keys lastSequence with
  | nil =>
      show Seen checks (∅ ∪ keys) lastSequence
      rw [Finset.empty_union]
      exact hseen
  | cons stored events ih =>
      have hrest := ih (hseen.add h.1.2) h.2
      have hkeys : storedKeys (stored :: events) ∪ keys = storedKeys events ∪ insert (clientKey stored) keys := by
        unfold storedKeys
        rw [List.map_cons, List.toFinset_cons, Finset.insert_union, Finset.union_insert]
      rw [hkeys, List.length_cons, Nat.add_comm events.length 1, ← Nat.add_assoc]
      exact hrest

theorem seen_ofExisting (h : Numbered E key 0 events) :
    Seen (.ofExisting events) (storedKeys events) events.length := by
  have hempty : Seen .empty ∅ 0 := ⟨fun k => iff_of_true rfl (Finset.notMem_empty k), rfl⟩
  have hseen := seen_foldl hempty h
  rw [Finset.union_empty, Nat.zero_add] at hseen
  exact hseen

/-- The accepted events are numbered on, there is one for each key that is new, and each is of the kind of an input. -/
theorem acceptInputs_numbered (hseen : Seen checks keys lastSequence)
    (h : acceptInputs E key checks inputs = .ok accepted) :
    Numbered E key lastSequence accepted ∧ accepted.length = (inputKeys inputs \ keys).card ∧
      ∀ stored ∈ accepted, ∃ input ∈ inputs, stored.event.kind = input.1.kind := by
  induction inputs generalizing checks keys lastSequence accepted with
  | nil =>
      obtain rfl := Except.ok.inj h
      exact ⟨trivial, by simp [inputKeys], fun _ hmem => absurd hmem List.not_mem_nil⟩
  | cons input inputs ih =>
      have hkeys : inputKeys (input :: inputs) = insert input.1.clientKey (inputKeys inputs) := List.toFinset_cons
      unfold acceptInputs at h
      obtain ⟨result, hresult, h⟩ := bind_eq_ok.mp h
      obtain ⟨prepared, hprepared, hcases⟩ := acceptInput_cases hresult
      obtain ⟨hstream, hsequence, hkind⟩ := prepareInput_content hprepared
      rw [hstream, hsequence] at hcases
      obtain ⟨rfl, hclient⟩ | ⟨stored, rfl, hclient, hnew, hbelongs, hcontent, -, -⟩ := hcases
      · have hmem : input.1.clientKey ∈ keys := by
          by_contra hnot
          have hnone : checks.byClient (input.1.streamId, input.1.clientSequence) = none := (hseen.byClient _).mpr hnot
          rw [hclient] at hnone
          cases hnone
        obtain ⟨hnumbered, hlength, hfrom⟩ := ih hseen h
        rw [hkeys, Finset.insert_sdiff_of_mem _ hmem]
        refine ⟨hnumbered, hlength, fun s hs => ?_⟩
        obtain ⟨other, hother, hsame⟩ := hfrom s hs
        exact ⟨other, List.mem_cons_of_mem _ hother, hsame⟩
      · obtain ⟨rest, hrest, h⟩ := bind_eq_ok.mp h
        obtain rfl := Except.ok.inj h
        rw [hseen.eventSequence] at hbelongs
        have hnot : input.1.clientKey ∉ keys := (hseen.byClient _).mp hclient
        have hkey : clientKey stored = input.1.clientKey := by
          unfold clientKey GenUiRuntimeTraceInput.clientKey
          rw [← hstream, ← hsequence, ← hcontent]
          rfl
        obtain ⟨hnumbered, hlength, hfrom⟩ := ih (hseen.add hbelongs) hrest
        refine ⟨⟨⟨hnew, hbelongs⟩, hnumbered⟩, ?_, fun s hs => ?_⟩
        · have hsplit : insert input.1.clientKey (inputKeys inputs) \ keys =
              insert input.1.clientKey (inputKeys inputs \ insert input.1.clientKey keys) := by
            ext k
            simp only [Finset.mem_sdiff, Finset.mem_insert]
            grind
          rw [List.length_cons, hlength, hkeys, hkey, hsplit, Finset.card_insert_of_notMem]
          simp
        · rcases List.mem_cons.mp hs with rfl | hs
          · refine ⟨input, List.mem_cons_self, ?_⟩
            rw [← hkind, ← hcontent]
            rfl
          · obtain ⟨other, hother, hsame⟩ := hfrom s hs
            exact ⟨other, List.mem_cons_of_mem _ hother, hsame⟩

/-! ## What is shown -/

def GenUiRuntimeTraceKind.Observational (kind : GenUiRuntimeTraceKind) : Prop := kind = .console ∨ kind = .error

/-- The events that a digest is of. -/
def replayed (events : List GenUiRuntimeTraceEvent) : List GenUiRuntimeTraceEvent :=
  events.filter fun event => event.kind = .action ∨ event.kind = .checkpoint ∨ event.kind = .effectReceipt

/-- The events that are shown. -/
def projected (events : List StoredRuntimeTraceEvent) : List StoredRuntimeTraceEvent :=
  events.drop (events.length - maxTraceEventsProjected)

/-- Those of them that so many new events push out. -/
def pushedOut (events : List StoredRuntimeTraceEvent) (count : Nat) : List StoredRuntimeTraceEvent :=
  (projected events).take ((projected events).length + count - maxTraceEventsProjected)

theorem replayed_eq_nil_iff {events : List GenUiRuntimeTraceEvent} :
    replayed events = [] ↔ ∀ event ∈ events, event.kind.Observational := by
  unfold replayed
  rw [List.filter_eq_nil_iff]
  refine forall₂_congr fun event _ => ?_
  unfold GenUiRuntimeTraceKind.Observational
  cases event.kind <;> simp

theorem projected_append (h : accepted.length ≤ maxTraceEventsProjected) :
    projected (events ++ accepted) =
      (projected events).drop ((projected events).length + accepted.length - maxTraceEventsProjected) ++ accepted := by
  have hdropped : events.length - maxTraceEventsProjected +
      (events.length - (events.length - maxTraceEventsProjected) + accepted.length - maxTraceEventsProjected) =
        events.length + accepted.length - maxTraceEventsProjected := by omega
  unfold projected
  rw [List.length_append, List.drop_append_of_le_length (by omega), List.drop_drop, List.length_drop, hdropped]

/-- What a digest is of after observational events: all that it was of, but for what they pushed out. -/
theorem replayed_projected (h : accepted.length ≤ maxTraceEventsProjected)
    (hobserved : ∀ stored ∈ accepted, stored.event.kind.Observational) :
    replayed ((projected events).map StoredRuntimeTraceEvent.event) =
      replayed ((pushedOut events accepted.length).map StoredRuntimeTraceEvent.event) ++
        replayed ((projected (events ++ accepted)).map StoredRuntimeTraceEvent.event) := by
  have hnone : replayed (accepted.map StoredRuntimeTraceEvent.event) = [] := by
    rw [replayed_eq_nil_iff]
    intro event hmem
    obtain ⟨stored, hstored, rfl⟩ := List.mem_map.mp hmem
    exact hobserved stored hstored
  have happend (xs ys : List GenUiRuntimeTraceEvent) : replayed (xs ++ ys) = replayed xs ++ replayed ys :=
    List.filter_append ..
  rw [projected_append h, List.map_append, happend, hnone, List.append_nil, ← happend, ← List.map_append]
  unfold pushedOut
  rw [List.take_append_drop]

/-- SHA-256 does not collide on the replays of the two projections, and of replays of different lengths JSON writes
different bytes. -/
def Distinguishes (E : TraceEncodings) (sourceRevision : Nat) (xs ys : List GenUiRuntimeTraceEvent) : Prop :=
  E.sha256 (E.projectionBytes sourceRevision (replayed xs)) = E.sha256 (E.projectionBytes sourceRevision (replayed ys)) →
    (replayed xs).length = (replayed ys).length

theorem projection_eq (E : TraceEncodings) (key : TraceKey) (events : List StoredRuntimeTraceEvent) :
    projection E key events = ⟨key.artifactId, key.sourceRevision,
      E.sha256 (E.projectionBytes key.sourceRevision (replayed ((projected events).map StoredRuntimeTraceEvent.event))),
      (projected events).map StoredRuntimeTraceEvent.event⟩ := rfl

theorem digest_eq_iff (h : accepted.length ≤ maxTraceEventsProjected)
    (hobserved : ∀ stored ∈ accepted, stored.event.kind.Observational)
    (hdistinguishes : Distinguishes E key.sourceRevision (projection E key events).events
      (projection E key (events ++ accepted)).events) :
    (projection E key (events ++ accepted)).projectionDigest = (projection E key events).projectionDigest ↔
      ∀ stored ∈ pushedOut events accepted.length, stored.event.kind.Observational := by
  have hsplit := @replayed_projected events accepted h hobserved
  have hnone : replayed ((pushedOut events accepted.length).map StoredRuntimeTraceEvent.event) = [] ↔
      ∀ stored ∈ pushedOut events accepted.length, stored.event.kind.Observational := by
    rw [replayed_eq_nil_iff, List.forall_mem_map]
  rw [projection_eq, projection_eq] at hdistinguishes
  rw [← hnone, projection_eq, projection_eq]
  dsimp only [Distinguishes] at hdistinguishes ⊢
  constructor
  · intro hsame
    have hlength := hdistinguishes hsame.symm
    rw [hsplit, List.length_append] at hlength
    exact List.eq_nil_of_length_eq_zero (by omega)
  · intro hpushed
    rw [hpushed, List.nil_append] at hsplit
    rw [hsplit]

/-! ## The digest after a batch -/

/-- An accepted batch leaves a journal that holds its new events as well, and is answered with what a load shows of it. -/
theorem appended (h : Holds E key journal events) (happend : (append E key inputs).call journal = (.ok shown, journal')) :
    ∃ accepted, acceptInputs E key (.ofExisting events) inputs = .ok accepted ∧ inputs.length ≤ maxTraceEventsPerAppend ∧
      Holds E key journal' (events ++ accepted) ∧ shown = projection E key (events ++ accepted) := by
  unfold append at happend
  rw [InPlace.refuseIf_bind_eq_ok] at happend
  obtain ⟨hinputs, happend⟩ := happend
  simp only [not_or, Nat.not_lt] at hinputs
  rw [InPlace.call_bind_ok h.read, InPlace.ofExcept_bind_eq_ok] at happend
  obtain ⟨accepted, haccept, happend⟩ := happend
  refine ⟨accepted, haccept, hinputs.2.2, ?_⟩
  have hshown {appended : Option (List UInt8)} (hholds : Holds E key appended (events ++ accepted))
      (hload : (RuntimeTrace.load E key).call appended = (.ok shown, journal')) :
      Holds E key journal' (events ++ accepted) ∧ shown = projection E key (events ++ accepted) := by
    rw [hholds.load] at hload
    obtain ⟨hshown, rfl⟩ := Prod.mk.inj hload
    exact ⟨hholds, (Except.ok.inj hshown).symm⟩
  by_cases hnone : accepted = []
  · subst hnone
    rw [if_pos rfl] at happend
    refine hshown ?_ happend
    rwa [List.append_nil]
  · rw [if_neg hnone] at happend
    obtain ⟨⟨⟩, appended, hwrite, hload⟩ := InPlace.call_bind_eq_ok.mp happend
    have hnumbered := (acceptInputs_numbered (seen_ofExisting h.numbered) haccept).1
    exact hshown (h.appendEvents hnumbered hwrite) hload

theorem append_of_read (hread : (readEvents E key).call journal = (.ok events, journal'))
    (happend : ((append E key inputs).call journal).1 = .ok shown) :
    (append E key inputs).call journal = (append E key inputs).call journal' := by
  unfold append at happend ⊢
  by_cases hinputs : key.sourceRevision = 0 ∨ inputs = [] ∨ maxTraceEventsPerAppend < inputs.length
  · rw [InPlace.call_refuseIf_pos hinputs] at happend
    cases happend
  · rw [InPlace.call_refuseIf_neg hinputs, InPlace.call_refuseIf_neg hinputs, InPlace.call_bind_ok hread,
      InPlace.call_bind_ok (holds_of_readEvents hread).read]

deriving instance Countable for GenUiRuntimeTraceKind

deriving instance Countable for GenUiRuntimeTraceEvent

deriving instance Countable for StoredRuntimeTraceEvent

def windowDigest (c : Char) : String := String.ofList (List.replicate 64 c)

/-- An action, and console messages after it. -/
def windowEvent (n : Nat) : GenUiRuntimeTraceEvent where
  schemaVersion := runtimeTraceSchemaVersion
  eventSequence := n + 1
  artifactId := ⟨2⟩
  sourceRevision := 3
  streamId := 4
  clientSequence := n + 1
  kind := if n = 0 then .action else .console
  name := "event"
  payload := .null
  payloadDigest := windowDigest 'a'
  redacted := false
  recordedAtMs := 0

def windowStored (n : Nat) : StoredRuntimeTraceEvent where
  storageSchemaVersion := runtimeTraceStorageSchemaVersion
  taskId := ⟨1⟩
  eventDigest := some (windowDigest 'a')
  event := windowEvent n

def windowEvents (n : Nat) : List StoredRuntimeTraceEvent := (List.range n).map windowStored

def windowKey : TraceKey := ⟨⟨1⟩, ⟨2⟩, 3⟩

def windowInput : GenUiRuntimeTraceInput where
  schemaVersion := runtimeTraceSchemaVersion
  streamId := 4
  clientSequence := 257
  kind := .console
  name := "event"
  payload := .null

/-- The digest tells an empty replay from the others. -/
noncomputable def windowEncodings : TraceEncodings where
  lines := .short (windowEvents 257)
  traceBytes _ := []
  storedBytes _ _ := []
  projectionBytes _ events := List.replicate events.length 0
  sha256 bytes := windowDigest (if bytes = [] then 'a' else 'b')
  isSha256_sha256 bytes := by
    have hboth : isSha256 (windowDigest 'a') = true ∧ isSha256 (windowDigest 'b') = true := by decide
    split
    · exact hboth.1
    · exact hboth.2

theorem windowEvents_succ (n : Nat) : windowEvents (n + 1) = windowEvents n ++ [windowStored n] := by
  unfold windowEvents
  rw [List.range_succ, List.map_append, List.map_singleton]

theorem length_windowEvents (n : Nat) : (windowEvents n).length = n := by
  unfold windowEvents
  rw [List.length_map, List.length_range]

theorem numbered_windowEvents (n : Nat) : Numbered windowEncodings windowKey 0 (windowEvents n) := by
  induction n with
  | zero => trivial
  | succ n ih =>
      have hdigest : isSha256 (windowDigest 'a') = true := by decide
      rw [windowEvents_succ, numbered_append, length_windowEvents]
      exact ⟨ih, ⟨⟨rfl, rfl, rfl, rfl, rfl, (Nat.zero_add n).symm ▸ rfl, Nat.succ_ne_zero n, hdigest, rfl⟩, trivial⟩⟩

theorem holds_windowEvents {n : Nat} (h : n ≤ 257) :
    Holds windowEncodings windowKey (some (windowEncodings.lines.render (windowEvents n))) (windowEvents n) := by
  have hshort (stored) (hmem : stored ∈ windowEvents n) : (windowEncodings.lines.encode stored).length ≤ 257 := by
    have hmem' : stored ∈ windowEvents 257 := by
      obtain ⟨i, hi, rfl⟩ := List.mem_map.mp hmem
      exact List.mem_map_of_mem (List.mem_range.mpr ((List.mem_range.mp hi).trans_le h))
    exact (LineCodec.length_short_encode_le _ hmem').trans_eq (length_windowEvents 257)
  refine holds_render (numbered_windowEvents n) (fun stored hmem => (hshort stored hmem).trans (by decide)) ?_
  refine (LineCodec.length_render_le _ hshort).trans ?_
  rw [length_windowEvents]
  unfold maxTraceJournalBytes
  omega

theorem streamTails_windowEvents (n : Nat) : ((TraceChecks.ofExisting (windowEvents n)).streamTails 4).getD 0 = n := by
  induction n with
  | zero => rfl
  | succ n ih =>
      unfold TraceChecks.ofExisting at ih ⊢
      rw [windowEvents_succ, List.foldl_append]
      generalize (windowEvents n).foldl (fun checks stored => checks.add stored.event) TraceChecks.empty = checks at ih ⊢
      show (Function.update checks.streamTails 4 (some ((checks.streamTails 4).elim (n + 1) (max · (n + 1)))) 4).getD 0 = _
      rw [Function.update_self, Option.getD_some]
      cases htail : checks.streamTails 4 with
      | none => rfl
      | some tail =>
          rw [htail, Option.getD_some] at ih
          show max tail (n + 1) = n + 1
          omega

theorem prepareInput_windowInput :
    prepareInput windowEncodings windowInput =
      .ok ⟨⟨4, 257, .console, "event", .null⟩, windowDigest 'a', false⟩ := by
  have hcheck : checkInput windowInput = .ok () := by
    unfold checkInput
    rw [if_neg (by decide), if_neg (by decide)]
  have hpayload : sanitizeValue 0 ⟨0, false⟩ .null = .ok (.null, ⟨1, false⟩) := by
    rw [sanitizeValue]
    rfl
  unfold prepareInput
  rw [hcheck, show windowInput.payload = .null from rfl]
  simp only [bind, Except.bind, hpayload]
  exact if_neg (Nat.not_lt_zero _)

theorem windowKey_notMem : (4, 257) ∉ storedKeys (windowEvents 256) := by
  unfold storedKeys windowEvents
  rw [List.mem_toFinset, List.map_map, List.mem_map]
  intro hmem
  obtain ⟨n, hn, hkey⟩ := hmem
  have hsequence : n + 1 = 257 := congrArg Prod.snd hkey
  rw [List.mem_range] at hn
  omega

theorem acceptInput_windowInput :
    acceptInput windowEncodings windowKey (some 0) (.ofExisting (windowEvents 256)) windowInput =
      .ok (some (windowStored 256)) := by
  have hseen := seen_ofExisting (numbered_windowEvents 256)
  have hclient := (hseen.byClient _).mpr windowKey_notMem
  have hsequence := hseen.eventSequence
  rw [length_windowEvents] at hsequence
  have hsucc : checkedSucc 256 = .ok 257 := if_pos (by decide)
  unfold acceptInput
  rw [prepareInput_windowInput]
  simp only [bind, Except.bind, hclient, hsequence, streamTails_windowEvents, hsucc]
  rfl

theorem append_windowInput :
    (append windowEncodings windowKey [(windowInput, some 0)]).call
        (some (windowEncodings.lines.render (windowEvents 256))) =
      (.ok (projection windowEncodings windowKey (windowEvents 257)),
        some (windowEncodings.lines.render (windowEvents 257))) := by
  have hbefore := holds_windowEvents (n := 256) (by decide)
  have hafter := holds_windowEvents (n := 257) le_rfl
  have haccept : acceptInputs windowEncodings windowKey (.ofExisting (windowEvents 256)) [(windowInput, some 0)] =
      .ok [windowStored 256] := by
    rw [acceptInputs, acceptInput_windowInput]
    rfl
  have hrender : windowEncodings.lines.render (windowEvents 256) ++ windowEncodings.lines.render [windowStored 256] =
      windowEncodings.lines.render (windowEvents 257) := by
    rw [windowEvents_succ 256, LineCodec.render_append]
  have hwrite : (appendEvents windowEncodings [windowStored 256]).call
      (some (windowEncodings.lines.render (windowEvents 256))) =
        (.ok (), some (windowEncodings.lines.render (windowEvents 257))) := by
    have hline : (windowEncodings.lines.encode (windowStored 256)).length ≤ 257 :=
      (LineCodec.length_short_encode_le _ (List.mem_map_of_mem (List.mem_range.mpr (by decide)))).trans_eq
        (length_windowEvents 257)
    unfold appendEvents
    rw [InPlace.call_bind_ok (InPlace.call_self _), InPlace.call_refuseIf_neg, InPlace.call_refuseIf_neg]
    · show (_, some (windowEncodings.lines.render (windowEvents 256) ++
        windowEncodings.lines.render [windowStored 256])) = _
      rw [hrender]
    · rw [Option.getD_some, ← List.length_append, hrender]
      exact Nat.not_lt.mpr hafter.bounded
    · intro hlong
      obtain ⟨event, hmem, hlt⟩ := hlong
      obtain rfl := List.mem_singleton.mp hmem
      exact absurd (hlt.trans_le hline) (by decide)
  unfold append
  rw [InPlace.call_refuseIf_neg (by decide), InPlace.call_bind_ok hbefore.read, haccept,
    InPlace.call_bind_ok (InPlace.call_ofExcept _ _), if_neg (List.cons_ne_nil _ _), InPlace.call_bind_ok hwrite,
    hafter.load]

theorem windowEvents_succ_eq_cons (n : Nat) :
    windowEvents (n + 1) = windowStored 0 :: (List.range n).map fun i => windowStored (i + 1) := by
  unfold windowEvents
  rw [List.range_succ_eq_map, List.map_cons, List.map_map]
  rfl

/-- The action is replayed as long as it is shown. -/
theorem replayed_windowEvents :
    replayed ((projected (windowEvents 256)).map StoredRuntimeTraceEvent.event) ≠ [] ∧
      replayed ((projected (windowEvents 257)).map StoredRuntimeTraceEvent.event) = [] := by
  unfold projected
  rw [length_windowEvents, length_windowEvents]
  constructor
  · rw [show 256 - maxTraceEventsProjected = 0 from rfl, List.drop_zero, Ne, replayed_eq_nil_iff, windowEvents_succ_eq_cons]
    intro hobserved
    rcases hobserved (windowEvent 0) List.mem_cons_self with hkind | hkind <;> cases hkind
  · rw [show 257 - maxTraceEventsProjected = 1 from rfl, replayed_eq_nil_iff, windowEvents_succ_eq_cons]
    intro event hmem
    obtain ⟨stored, hstored, rfl⟩ := List.mem_map.mp hmem
    obtain ⟨i, -, rfl⟩ := List.mem_map.mp hstored
    exact Or.inl rfl

theorem digests_windowEvents :
    windowEncodings.sha256 (windowEncodings.projectionBytes windowKey.sourceRevision
        (replayed ((projected (windowEvents 256)).map StoredRuntimeTraceEvent.event))) = windowDigest 'b' ∧
      windowEncodings.sha256 (windowEncodings.projectionBytes windowKey.sourceRevision
        (replayed ((projected (windowEvents 257)).map StoredRuntimeTraceEvent.event))) = windowDigest 'a' := by
  obtain ⟨hsome, hnone⟩ := replayed_windowEvents
  have hdigest (events : List GenUiRuntimeTraceEvent) :
      windowEncodings.sha256 (windowEncodings.projectionBytes windowKey.sourceRevision events) =
        windowDigest (if List.replicate events.length (0 : UInt8) = [] then 'a' else 'b') := rfl
  rw [hdigest, hdigest, hnone, if_pos (show List.replicate ([] : List GenUiRuntimeTraceEvent).length (0 : UInt8) = [] from rfl),
    if_neg]
  · exact ⟨rfl, rfl⟩
  · rw [List.replicate_eq_nil_iff, List.length_eq_zero_iff]
    exact hsome

theorem windowDigest_ne : windowDigest 'a' ≠ windowDigest 'b' := by decide

end HyperTerm.Daemon.RuntimeTrace
