import HyperTerm.Core.Terminal

/-!
# What a subscriber gets

Output is published, subscribers come with any cursor, take their events or leave, and the process exits, in any order.

* `TerminalHistory` : the buffer, everything published, and every subscription with what it was told and has received;
* `Numbered` : chunks in sequence;
* `subscriptions_sound` : in every history what a subscriber gets is a run of the output without gap or duplicate.
-/

namespace HyperTerm.Core
open HyperTerm.Protocol TerminalReplayBuffer

/-! ## Histories -/

def TerminalEvent.chunk? : TerminalEvent → Option TerminalChunk
  | .output chunk => some chunk
  | .exited _ | .fault _ => none

/-- The output among the events. -/
def outputs (events : List TerminalEvent) : List TerminalChunk := events.filterMap TerminalEvent.chunk?

/-- What `subscribe` was asked and answered, the state of the buffer at that time (how many events had been published,
its earliest and its next sequence), and what was taken from the channel since. -/
structure Subscription where
  afterSequence : Nat
  replay : TerminalReplay
  exit : Option TerminalExit
  since : Nat
  earliest : Nat
  next : Nat
  received : List TerminalEvent

structure TerminalHistory where
  buffer : TerminalReplayBuffer
  published : List TerminalEvent
  /-- The channel of a subscription is named by its index. -/
  subscriptions : List Subscription

inductive TerminalOp where
  | publishOutput (bytes : List UInt8)
  | publishExit (exit : TerminalExit)
  | publishFault (message : String)
  | subscribe (afterSequence : Nat)
  /-- The subscriber takes an event from its channel. -/
  | receive (id : Nat)
  /-- The subscriber drops its receiver. -/
  | disconnect (id : Nat)

namespace TerminalHistory

def start (terminalId : TerminalId) (replayBytes transcriptTailBytes : Nat) : TerminalHistory where
  buffer := .new terminalId replayBytes transcriptTailBytes
  published := []
  subscriptions := []

def setChannel (h : TerminalHistory) (id : Nat) (channel : Channel) : TerminalHistory :=
  { h with buffer := { h.buffer with channels := Function.update h.buffer.channels id channel } }

def subscribe (h : TerminalHistory) (afterSequence : Nat) : TerminalHistory :=
  let answer := h.buffer.subscribe h.subscriptions.length afterSequence
  { h with
    buffer := answer.1
    subscriptions := h.subscriptions ++ [{
      afterSequence
      replay := answer.2.1
      exit := answer.2.2
      since := h.published.length
      earliest := h.buffer.earliestSequence
      next := h.buffer.nextSequence
      received := [] }] }

def receive (h : TerminalHistory) (id : Nat) : TerminalHistory :=
  match h.buffer.channels id with
  | ⟨event :: queue, true⟩ =>
      { h.setChannel id ⟨queue, true⟩ with
        subscriptions := h.subscriptions.modify id fun sub => { sub with received := sub.received ++ [event] } }
  | _ => h

def step (h : TerminalHistory) : TerminalOp → TerminalHistory
  | .publishOutput bytes =>
      { h with
        buffer := h.buffer.publishOutput bytes
        published := h.published ++ [.output ⟨h.buffer.terminalId, h.buffer.nextSequence, bytes⟩] }
  | .publishExit exit =>
      { h with
        buffer := h.buffer.publishExit exit
        published := if h.buffer.exit.isSome then h.published else h.published ++ [.exited exit] }
  | .publishFault message =>
      { h with
        buffer := h.buffer.publishFault message
        published := h.published ++ [.fault message] }
  | .subscribe afterSequence => h.subscribe afterSequence
  | .receive id => h.receive id
  | .disconnect id => h.setChannel id { h.buffer.channels id with receiver := false }

def run (terminalId : TerminalId) (replayBytes transcriptTailBytes : Nat) (ops : List TerminalOp) : TerminalHistory :=
  ops.foldl step (start terminalId replayBytes transcriptTailBytes)

/-- What the subscriber got and can still get from its channel. -/
def delivered (h : TerminalHistory) (id : Nat) (sub : Subscription) : List TerminalEvent :=
  sub.received ++ (h.buffer.channels id).queue

/-- The channel lives: the buffer still has its sender. -/
def Lives (h : TerminalHistory) (id : Nat) : Prop := id ∈ h.buffer.subscribers

end TerminalHistory

/-- The sequences are `first`, `first + 1` and so on. -/
def Numbered (first : Nat) (chunks : List TerminalChunk) : Prop :=
  chunks.map TerminalChunk.sequence = List.range' first chunks.length

/-- What is asked for a subscription. While its channel lives it has everything published. -/
structure SubscriptionSound (h : TerminalHistory) (id : Nat) (sub : Subscription) : Prop where
  /-- All after a cursor that the buffer still covers. -/
  covered : sub.earliest ≤ sub.afterSequence + 1 → sub.afterSequence < sub.next →
    ∃ chunks, sub.replay = .chunks chunks ∧ Numbered (sub.afterSequence + 1) (chunks ++ outputs (h.delivered id sub)) ∧
      (h.Lives id →
        chunks ++ outputs (h.delivered id sub) = (outputs h.published).drop sub.afterSequence)
  /-- The channel goes on where the snapshot ends. -/
  snapshot : ∀ snapshot, sub.replay = .snapshotRequired snapshot →
    Numbered snapshot.nextSequence (outputs (h.delivered id sub)) ∧
      (h.Lives id → outputs (h.delivered id sub) = (outputs h.published).drop (snapshot.nextSequence - 1))
  /-- A cursor that is ahead of the output gets what is published from then on. -/
  ahead : sub.next ≤ sub.afterSequence → sub.replay = .chunks [] ∧ Numbered sub.next (outputs (h.delivered id sub))
  /-- All that was published before the exit, since the subscription, is delivered before it. -/
  exited : ∀ before exit after, h.delivered id sub = before ++ .exited exit :: after →
    ∃ earlier later, h.published = earlier ++ .exited exit :: later ∧ sub.since ≤ earlier.length ∧
      earlier.drop sub.since = before

def SubscriptionsSound (h : TerminalHistory) : Prop :=
  ∀ id sub, h.subscriptions[id]? = some sub → SubscriptionSound h id sub

/-! ## Chunks in sequence -/

section Numbered

variable {first k : Nat} {chunk : TerminalChunk} {chunks chunks' : List TerminalChunk} {events events' : List TerminalEvent}

theorem numbered_nil (first : Nat) : Numbered first [] := rfl

theorem numbered_cons : Numbered first (chunk :: chunks) ↔ chunk.sequence = first ∧ Numbered (first + 1) chunks := by
  unfold Numbered
  rw [List.map_cons, List.length_cons, List.range'_succ, List.cons.injEq]

theorem numbered_append :
    Numbered first (chunks ++ chunks') ↔ Numbered first chunks ∧ Numbered (first + chunks.length) chunks' := by
  induction chunks generalizing first with
  | nil => exact ⟨fun h => ⟨rfl, h⟩, fun h => h.2⟩
  | cons chunk chunks ih =>
      rw [List.cons_append, numbered_cons, numbered_cons, ih, List.length_cons, and_assoc, Nat.add_right_comm, Nat.add_assoc]

theorem Numbered.drop (h : Numbered first chunks) (hk : k ≤ chunks.length) : Numbered (first + k) (chunks.drop k) := by
  rw [← List.take_append_drop k chunks, numbered_append, List.length_take, Nat.min_eq_left hk] at h
  exact h.2

theorem Numbered.of_isPrefix (h : Numbered first chunks) (hinit : chunks' <+: chunks) : Numbered first chunks' := by
  obtain ⟨rest, rfl⟩ := hinit
  exact (numbered_append.mp h).1

/-- The chunks above a cursor are those after it. -/
theorem Numbered.filter (h : Numbered first chunks) (hk : first ≤ k + 1) :
    (chunks.filter fun chunk => k < chunk.sequence) = chunks.drop (k + 1 - first) := by
  induction chunks generalizing first with
  | nil => rw [List.drop_nil]; rfl
  | cons chunk chunks ih =>
      obtain ⟨hsequence, htail⟩ := numbered_cons.mp h
      rw [List.filter_cons, hsequence]
      by_cases hlt : k < first
      · have hzero : k + 1 - first = 0 := by omega
        have hall : ∀ chunk' ∈ chunks, decide (k < chunk'.sequence) = true := by
          intro chunk' hmem
          have hmem' : chunk'.sequence ∈ List.range' (first + 1) chunks.length := htail ▸ List.mem_map_of_mem hmem
          have hle := (List.mem_range'_1.mp hmem').1
          exact decide_eq_true (by omega)
        rw [if_pos (decide_eq_true hlt), hzero, List.drop_zero, List.filter_eq_self.mpr hall]
      · have hsucc : k + 1 - first = (k + 1 - (first + 1)) + 1 := by omega
        rw [if_neg (by simpa using hlt), ih htail (by omega), hsucc, List.drop_succ_cons]

@[simp] theorem outputs_append : outputs (events ++ events') = outputs events ++ outputs events' := List.filterMap_append

theorem outputs_isPrefix (h : events <+: events') : outputs events <+: outputs events' := by
  obtain ⟨rest, rfl⟩ := h
  exact ⟨outputs rest, outputs_append.symm⟩

theorem trimChunks_isSuffix (replayBytes : Nat) (chunks : List TerminalChunk) :
    trimChunks replayBytes chunks <:+ chunks := by
  fun_induction trimChunks replayBytes chunks with
  | case1 => exact List.suffix_refl _
  | case2 => exact List.suffix_refl _
  | case3 chunk chunks _ _ ih => exact ih.trans (List.suffix_cons _ _)
  | case4 => exact List.suffix_refl _

end Numbered

/-! ## The invariant -/

variable {h h' : TerminalHistory} {id : Nat} {sub : Subscription} {published : List TerminalEvent} {event : TerminalEvent}

/-- The buffer keeps the end of what was published. -/
structure BufferSound (published : List TerminalEvent) (buffer : TerminalReplayBuffer) : Prop where
  numbered : Numbered 1 (outputs published)
  next : buffer.nextSequence = (outputs published).length + 1
  chunks : buffer.chunks <:+ outputs published

/-- What a subscription was told, by what had been published. -/
structure Answered (published : List TerminalEvent) (sub : Subscription) : Prop where
  since : sub.since ≤ published.length
  next : sub.next = (outputs (published.take sub.since)).length + 1
  earliest : 1 ≤ sub.earliest ∧ sub.earliest ≤ sub.next
  chunks : sub.earliest ≤ sub.afterSequence + 1 →
    sub.replay = .chunks ((outputs (published.take sub.since)).drop sub.afterSequence)
  snapshot : ∀ snapshot, sub.replay = .snapshotRequired snapshot → snapshot.nextSequence = sub.next

structure HistoryInv (h : TerminalHistory) : Prop where
  buffer : BufferSound h.published h.buffer
  registered : ∀ id, h.Lives id → id < h.subscriptions.length
  answered : ∀ sub ∈ h.subscriptions, Answered h.published sub
  delivered : ∀ id sub, h.subscriptions[id]? = some sub → h.delivered id sub <+: h.published.drop sub.since
  lives : ∀ id sub, h.subscriptions[id]? = some sub → h.Lives id → h.delivered id sub = h.published.drop sub.since

theorem BufferSound.earliest {buffer : TerminalReplayBuffer} (hbuffer : BufferSound published buffer) :
    buffer.earliestSequence + buffer.chunks.length = buffer.nextSequence ∧
      buffer.chunks = (outputs published).drop (buffer.earliestSequence - 1) ∧ 1 ≤ buffer.earliestSequence := by
  obtain ⟨older, holder⟩ := hbuffer.chunks
  have hlength : older.length + buffer.chunks.length = (outputs published).length := by
    rw [← holder, List.length_append]
  have hearliest : buffer.earliestSequence = older.length + 1 := by
    unfold TerminalReplayBuffer.earliestSequence
    cases hchunks : buffer.chunks with
    | nil =>
        rw [hchunks, List.length_nil] at hlength
        show buffer.nextSequence = older.length + 1
        rw [hbuffer.next]
        omega
    | cons chunk chunks =>
        have hnumbered := hbuffer.numbered
        rw [← holder, hchunks, numbered_append, numbered_cons] at hnumbered
        show chunk.sequence = older.length + 1
        rw [hnumbered.2.1, Nat.add_comm]
  refine ⟨?_, ?_, ?_⟩
  · rw [hearliest, hbuffer.next]
    omega
  · rw [hearliest, Nat.add_sub_cancel, ← holder, List.drop_left]
  · rw [hearliest]
    exact Nat.le_add_left _ _

/-- Nothing changes for a subscription when more is published. -/
theorem Answered.append (hsub : Answered published sub) (events : List TerminalEvent) :
    Answered (published ++ events) sub := by
  have htake : (published ++ events).take sub.since = published.take sub.since := List.take_append_of_le_length hsub.since
  refine { hsub with since := ?_, next := htake ▸ hsub.next, chunks := fun hle => htake ▸ hsub.chunks hle }
  rw [List.length_append]
  exact hsub.since.trans (Nat.le_add_right _ _)

namespace HistoryInv

theorem start (terminalId : TerminalId) (replayBytes transcriptTailBytes : Nat) :
    HistoryInv (.start terminalId replayBytes transcriptTailBytes) where
  buffer := ⟨numbered_nil 1, rfl, List.suffix_refl _⟩
  registered _ h := absurd h List.not_mem_nil
  answered _ h := absurd h List.not_mem_nil
  delivered _ _ h := nomatch h
  lives _ _ h := nomatch h

/-- An event goes to every channel that lives and has room. -/
theorem publish (hinv : HistoryInv h) {buffer : TerminalReplayBuffer} (hsubscribers : buffer.subscribers = h.buffer.subscribers)
    (hchannels : buffer.channels = h.buffer.channels) (hbuffer : BufferSound (h.published ++ [event]) (buffer.publish event)) :
    HistoryInv { h with buffer := buffer.publish event, published := h.published ++ [event] } := by
  have hlives : ∀ id, id ∈ (buffer.publish event).subscribers → h.Lives id ∧ accepts (h.buffer.channels id) = true := by
    intro id hmem
    have hmem' := List.mem_filter.mp hmem
    rw [hsubscribers, hchannels] at hmem'
    exact hmem'
  have hdrop : ∀ sub ∈ h.subscriptions, (h.published ++ [event]).drop sub.since = h.published.drop sub.since ++ [event] :=
    fun sub hmem => List.drop_append_of_le_length (hinv.answered sub hmem).since
  have hqueue : ∀ id, ((buffer.publish event).channels id).queue =
      if id ∈ h.buffer.subscribers ∧ accepts (h.buffer.channels id) = true then (h.buffer.channels id).queue ++ [event]
      else (h.buffer.channels id).queue := by
    intro id
    unfold TerminalReplayBuffer.publish
    dsimp only
    rw [hsubscribers, hchannels]
    split_ifs <;> rfl
  refine ⟨hbuffer, fun id hmem => hinv.registered id (hlives id hmem).1,
    fun sub hmem => (hinv.answered sub hmem).append [event], fun id sub hsub => ?_, fun id sub hsub hmem => ?_⟩
  · have hmem := List.mem_of_getElem? hsub
    show sub.received ++ ((buffer.publish event).channels id).queue <+: (h.published ++ [event]).drop sub.since
    rw [hdrop sub hmem, hqueue id]
    split_ifs with hlive
    · rw [← List.append_assoc]
      exact (congrArg (· ++ [event]) (hinv.lives id sub hsub hlive.1)) ▸ List.prefix_refl _
    · exact (hinv.delivered id sub hsub).trans (List.prefix_append _ _)
  · have hlive := hlives id hmem
    show sub.received ++ ((buffer.publish event).channels id).queue = (h.published ++ [event]).drop sub.since
    rw [hdrop sub (List.mem_of_getElem? hsub), hqueue id, if_pos ⟨hlive.1, hlive.2⟩, ← List.append_assoc]
    exact congrArg (· ++ [event]) (hinv.lives id sub hsub hlive.1)

theorem publishOutput (hinv : HistoryInv h) (bytes : List UInt8) : HistoryInv (h.step (.publishOutput bytes)) := by
  refine hinv.publish rfl rfl ?_
  obtain ⟨hnumbered, hnext, hchunks⟩ := hinv.buffer
  have houtputs : outputs (h.published ++ [.output ⟨h.buffer.terminalId, h.buffer.nextSequence, bytes⟩]) =
      outputs h.published ++ [⟨h.buffer.terminalId, h.buffer.nextSequence, bytes⟩] := outputs_append
  refine ⟨?_, ?_, ?_⟩
  · rw [houtputs, numbered_append, numbered_cons]
    refine ⟨hnumbered, ?_, numbered_nil _⟩
    rw [hnext, Nat.add_comm]
  · rw [houtputs, List.length_append, List.length_singleton, ← hnext]
    rfl
  · rw [houtputs]
    refine (trimChunks_isSuffix _ _).trans ?_
    obtain ⟨older, holder⟩ := hchunks
    exact ⟨older, by rw [← List.append_assoc, holder]⟩

/-- An event that is not output. -/
theorem publishOther (hinv : HistoryInv h) {buffer : TerminalReplayBuffer} (hevent : event.chunk? = none)
    (hsubscribers : buffer.subscribers = h.buffer.subscribers) (hchannels : buffer.channels = h.buffer.channels)
    (hnext : buffer.nextSequence = h.buffer.nextSequence) (hchunks : buffer.chunks = h.buffer.chunks) :
    HistoryInv { h with buffer := buffer.publish event, published := h.published ++ [event] } := by
  have houtputs : outputs (h.published ++ [event]) = outputs h.published := by
    rw [outputs_append]
    unfold outputs
    rw [List.filterMap_cons_none hevent, List.filterMap_nil, List.append_nil]
  refine hinv.publish hsubscribers hchannels ⟨houtputs ▸ hinv.buffer.numbered, ?_, ?_⟩
  · rw [houtputs, ← hinv.buffer.next, ← hnext]
    rfl
  · rw [houtputs]
    exact hchunks ▸ hinv.buffer.chunks

/-- What a new subscriber is told. -/
theorem answered_subscribe (hbuffer : BufferSound h.published h.buffer) (afterSequence : Nat) :
    Answered h.published ⟨afterSequence, (h.buffer.subscribe h.subscriptions.length afterSequence).2.1,
      (h.buffer.subscribe h.subscriptions.length afterSequence).2.2, h.published.length, h.buffer.earliestSequence,
      h.buffer.nextSequence, []⟩ := by
  obtain ⟨hlength, hchunks, hone⟩ := hbuffer.earliest
  have hreplay : (h.buffer.subscribe h.subscriptions.length afterSequence).2.1 =
      if afterSequence < h.buffer.earliestSequence - 1 then .snapshotRequired h.buffer.snapshot
      else .chunks (h.buffer.chunks.filter fun chunk => afterSequence < chunk.sequence) := rfl
  refine ⟨Nat.le_refl _, ?_, ⟨hone, ?_⟩, fun hcovered => ?_, fun snapshot hsnapshot => ?_⟩
  · rw [List.take_length]
    exact hbuffer.next
  · exact Nat.le.intro hlength
  · have hnumbered : Numbered h.buffer.earliestSequence h.buffer.chunks := by
      have hdrop := hbuffer.numbered.drop (k := h.buffer.earliestSequence - 1) (by rw [hbuffer.next] at hlength; omega)
      rw [← hchunks, Nat.add_sub_cancel' hone] at hdrop
      exact hdrop
    show (h.buffer.subscribe h.subscriptions.length afterSequence).2.1 =
      .chunks ((outputs (h.published.take h.published.length)).drop afterSequence)
    have hcovered' : h.buffer.earliestSequence ≤ afterSequence + 1 := hcovered
    rw [hreplay, if_neg (by omega), hnumbered.filter hcovered', List.take_length]
    conv_lhs => rw [hchunks, List.drop_drop]
    congr 2
    omega
  · have hsnapshot' : (h.buffer.subscribe h.subscriptions.length afterSequence).2.1 = .snapshotRequired snapshot := hsnapshot
    rw [hreplay] at hsnapshot'
    split_ifs at hsnapshot'
    obtain rfl := TerminalReplay.snapshotRequired.inj hsnapshot'
    rfl

/-- The new subscription comes last. -/
theorem getElem?_concat {α : Type} {l : List α} {a b : α} {i : Nat} (hget : (l ++ [a])[i]? = some b) :
    l[i]? = some b ∨ i = l.length ∧ b = a := by
  obtain hlt | rfl | hgt := lt_trichotomy i l.length
  · rw [List.getElem?_append_left hlt] at hget
    exact Or.inl hget
  · rw [List.getElem?_concat_length] at hget
    exact Or.inr ⟨rfl, (Option.some.inj hget).symm⟩
  · rw [List.getElem?_eq_none (by rw [List.length_append, List.length_singleton]; omega)] at hget
    cases hget

theorem subscribe (hinv : HistoryInv h) (afterSequence : Nat) : HistoryInv (h.subscribe afterSequence) := by
  have hchannel : ∀ id ≠ h.subscriptions.length,
      (h.subscribe afterSequence).buffer.channels id = h.buffer.channels id := fun id hne => if_neg hne
  have hnew : (h.subscribe afterSequence).buffer.channels h.subscriptions.length = ⟨[], true⟩ := if_pos rfl
  have hlives : ∀ id, (h.subscribe afterSequence).Lives id → h.Lives id ∨ id = h.subscriptions.length := by
    intro id (hmem : id ∈ if h.buffer.exit.isNone then h.buffer.subscribers ++ [h.subscriptions.length]
      else h.buffer.subscribers)
    split_ifs at hmem
    · exact (List.mem_append.mp hmem).imp (fun hmem => hmem) List.mem_singleton.mp
    · exact Or.inl hmem
  have hold : ∀ id sub, h.subscriptions[id]? = some sub → (h.subscribe afterSequence).delivered id sub = h.delivered id sub := by
    intro id sub hsub
    have hne : id ≠ h.subscriptions.length := (List.getElem?_eq_some_iff.mp hsub).1.ne
    show sub.received ++ ((h.subscribe afterSequence).buffer.channels id).queue = _
    rw [hchannel id hne]
    rfl
  refine ⟨⟨hinv.buffer.numbered, hinv.buffer.next, hinv.buffer.chunks⟩, fun id hlive => ?_, fun sub hmem => ?_,
    fun id sub hsub => ?_, fun id sub hsub hlive => ?_⟩
  · show id < (h.subscriptions ++ [_]).length
    rw [List.length_append, List.length_singleton]
    obtain hlive | rfl := hlives id hlive
    · exact (hinv.registered id hlive).trans (Nat.lt_succ_self _)
    · exact Nat.lt_succ_self _
  · obtain hmem | hmem := List.mem_append.mp hmem
    · exact hinv.answered sub hmem
    · rw [List.mem_singleton.mp hmem]
      exact answered_subscribe hinv.buffer afterSequence
  · obtain hsub | ⟨rfl, rfl⟩ := getElem?_concat hsub
    · rw [hold id sub hsub]
      exact hinv.delivered id sub hsub
    · show [] ++ ((h.subscribe afterSequence).buffer.channels h.subscriptions.length).queue <+: _
      rw [hnew]
      exact List.nil_prefix
  · obtain hsub | ⟨rfl, rfl⟩ := getElem?_concat hsub
    · rw [hold id sub hsub]
      refine hinv.lives id sub hsub ((hlives id hlive).resolve_right ?_)
      exact (List.getElem?_eq_some_iff.mp hsub).1.ne
    · show [] ++ ((h.subscribe afterSequence).buffer.channels h.subscriptions.length).queue = h.published.drop h.published.length
      rw [hnew, List.drop_length]
      rfl

/-- A receiver is dropped, with what is in its channel. -/
theorem disconnect (hinv : HistoryInv h) (id : Nat) :
    HistoryInv (h.setChannel id { h.buffer.channels id with receiver := false }) := by
  have hdelivered : ∀ id' sub, (h.setChannel id { h.buffer.channels id with receiver := false }).delivered id' sub =
      h.delivered id' sub := by
    intro id' sub
    show sub.received ++ (Function.update h.buffer.channels id _ id').queue = sub.received ++ (h.buffer.channels id').queue
    by_cases heq : id' = id
    · rw [heq, Function.update_self]
    · rw [Function.update_of_ne heq]
  refine ⟨⟨hinv.buffer.numbered, hinv.buffer.next, hinv.buffer.chunks⟩, hinv.registered, hinv.answered,
    fun id' sub hsub => ?_, fun id' sub hsub hlive => ?_⟩
  · rw [hdelivered]
    exact hinv.delivered id' sub hsub
  · rw [hdelivered]
    exact hinv.lives id' sub hsub hlive

/-- An event goes from the channel to the subscriber. -/
theorem receive (hinv : HistoryInv h) (id : Nat) : HistoryInv (h.receive id) := by
  unfold TerminalHistory.receive
  split
  case h_2 => exact hinv
  case h_1 event queue hchannel =>
    have hsubscription : ∀ id' sub,
        (h.subscriptions.modify id fun sub => { sub with received := sub.received ++ [event] })[id']? = some sub →
        ∃ sub', h.subscriptions[id']? = some sub' ∧ (Answered h.published sub' → Answered h.published sub) ∧
          sub.since = sub'.since ∧
          sub.received ++ (Function.update h.buffer.channels id ⟨queue, true⟩ id').queue = h.delivered id' sub' := by
      intro id' sub hsub
      by_cases heq : id = id'
      · subst heq
        rw [List.getElem?_modify_eq] at hsub
        obtain ⟨sub', hsub', rfl⟩ := Option.map_eq_some_iff.mp hsub
        refine ⟨sub', hsub', fun ha => ⟨ha.since, ha.next, ha.earliest, ha.chunks, ha.snapshot⟩, rfl, ?_⟩
        show (sub'.received ++ [event]) ++ _ = sub'.received ++ (h.buffer.channels id).queue
        rw [Function.update_self, hchannel, List.append_assoc]
        rfl
      · rw [List.getElem?_modify_ne _ _ heq] at hsub
        refine ⟨sub, hsub, fun ha => ha, rfl, ?_⟩
        rw [Function.update_of_ne (Ne.symm heq)]
        rfl
    refine ⟨⟨hinv.buffer.numbered, hinv.buffer.next, hinv.buffer.chunks⟩, fun id' hlive => ?_, fun sub hmem => ?_,
      fun id' sub hsub => ?_, fun id' sub hsub hlive => ?_⟩
    · show id' < (h.subscriptions.modify id _).length
      rw [List.length_modify]
      exact hinv.registered id' hlive
    · obtain ⟨id', hsub⟩ := List.getElem?_of_mem hmem
      obtain ⟨sub', hsub', hanswered, -⟩ := hsubscription id' sub hsub
      exact hanswered (hinv.answered sub' (List.mem_of_getElem? hsub'))
    · obtain ⟨sub', hsub', -, hsince, hdelivered⟩ := hsubscription id' sub hsub
      show sub.received ++ _ <+: h.published.drop sub.since
      rw [hsince]
      exact hdelivered ▸ hinv.delivered id' sub' hsub'
    · obtain ⟨sub', hsub', -, hsince, hdelivered⟩ := hsubscription id' sub hsub
      show sub.received ++ _ = h.published.drop sub.since
      rw [hsince]
      exact hdelivered.trans (hinv.lives id' sub' hsub' hlive)

theorem step (hinv : HistoryInv h) (op : TerminalOp) : HistoryInv (h.step op) := by
  cases op with
  | publishOutput bytes => exact hinv.publishOutput bytes
  | publishExit exit =>
      by_cases hexit : h.buffer.exit.isSome
      · have hsame : h.step (.publishExit exit) = h := by
          unfold TerminalHistory.step TerminalReplayBuffer.publishExit
          dsimp only
          rw [if_pos hexit, if_pos hexit]
        rw [hsame]
        exact hinv
      · have hstep : h.step (.publishExit exit) = { h with
            buffer := TerminalReplayBuffer.publish { h.buffer with exit := some exit } (.exited exit)
            published := h.published ++ [.exited exit] } := by
          unfold TerminalHistory.step TerminalReplayBuffer.publishExit
          dsimp only
          rw [if_neg hexit, if_neg hexit]
        rw [hstep]
        exact hinv.publishOther rfl rfl rfl rfl rfl
  | publishFault message => exact hinv.publishOther rfl rfl rfl rfl rfl
  | subscribe afterSequence => exact hinv.subscribe afterSequence
  | receive id => exact hinv.receive id
  | disconnect id => exact hinv.disconnect id

theorem run (terminalId : TerminalId) (replayBytes transcriptTailBytes : Nat) (ops : List TerminalOp) :
    HistoryInv (.run terminalId replayBytes transcriptTailBytes ops) := by
  induction ops using List.reverseRecOn with
  | nil => exact start terminalId replayBytes transcriptTailBytes
  | append_singleton ops op ih =>
      unfold TerminalHistory.run
      rw [List.foldl_concat]
      exact ih.step op

/-! ## Subscriptions -/

/-- What is delivered is the beginning of what was published since. -/
theorem sound (hinv : HistoryInv h) (hsub : h.subscriptions[id]? = some sub) : SubscriptionSound h id sub := by
  obtain ⟨hsince, hnext, hearliest, hchunks, hsnapshot⟩ := hinv.answered sub (List.mem_of_getElem? hsub)
  have hdelivered := hinv.delivered id sub hsub
  have hlives := hinv.lives id sub hsub
  have hsplit : outputs h.published = outputs (h.published.take sub.since) ++ outputs (h.published.drop sub.since) := by
    rw [← outputs_append, List.take_append_drop]
  have hnumbered : Numbered 1 (outputs (h.published.take sub.since)) ∧ Numbered sub.next (outputs (h.published.drop sub.since)) := by
    rw [hnext, Nat.add_comm, ← numbered_append, ← hsplit]
    exact hinv.buffer.numbered
  have hnew := hnumbered.2.of_isPrefix (outputs_isPrefix hdelivered)
  have hrest : (outputs h.published).drop (sub.next - 1) = outputs (h.published.drop sub.since) := by
    rw [hnext, Nat.add_sub_cancel, hsplit, List.drop_left]
  refine ⟨fun hle hlt => ⟨_, hchunks hle, ?_, fun hlive => ?_⟩, fun snapshot hreplay => ?_, fun hahead => ?_,
    fun before exit after heq => ?_⟩
  · have hold := hnumbered.1.drop (k := sub.afterSequence) (by omega)
    refine numbered_append.mpr ⟨Nat.add_comm 1 _ ▸ hold, ?_⟩
    have hend : sub.afterSequence + 1 + ((outputs (h.published.take sub.since)).drop sub.afterSequence).length = sub.next := by
      rw [List.length_drop]
      omega
    rw [hend]
    exact hnew
  · rw [hlives hlive, hsplit, List.drop_append_of_le_length (by omega)]
  · rw [hsnapshot snapshot hreplay, hrest]
    exact ⟨hnew, fun hlive => congrArg outputs (hlives hlive)⟩
  · refine ⟨?_, hnew⟩
    rw [hchunks (by omega), List.drop_eq_nil_of_le (by omega)]
  · obtain ⟨later, hlater⟩ := hdelivered
    refine ⟨h.published.take sub.since ++ before, after ++ later, ?_, ?_, ?_⟩
    · conv_lhs => rw [← List.take_append_drop sub.since h.published, ← hlater, heq]
      rw [List.append_assoc, List.append_assoc, List.cons_append]
    · rw [List.length_append, List.length_take, Nat.min_eq_left hsince]
      exact Nat.le_add_right _ _
    · rw [List.drop_left' (by rw [List.length_take, Nat.min_eq_left hsince])]

end HistoryInv

end HyperTerm.Core
