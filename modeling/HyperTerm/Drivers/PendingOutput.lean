import HyperTerm.Drivers.Events
import HyperTerm.Lib.Runs
import Mathlib.Tactic.SplitIfs

/-!
# The pending output of a driver process

The thread that reads a process reserves the bytes of a message before it queues it, and who receives the message
releases them after it has taken it. Both change one atomic counter. The queue is a bounded channel, which is emptied
when its receiver is dropped.

* `Outputs`, `outputStep` : the counter, the channel, the reader and the calls of `recv_timeout`, one atomic operation
  at a time;
* `Accounted` : the counter is the bytes of the messages that are reserved, queued, taken or lost with the receiver;
* `inboxCall`, `InboxSound` : the inbox of an adapter over any calls;
* `pending_output_accounted` : both over every run.
-/

namespace HyperTerm.Drivers
open HyperTerm.Lib HyperTerm.Protocol

structure QueuedDriverEvent where
  event : DriverEvent
  outputBytes : Nat

/-- Where the thread `hyper-driver-protocol` is. -/
inductive OutputReader where
  | reading
  | reserved (queued : QueuedDriverEvent)
  | unsent (bytes : Nat)
  | failing (message : String)
  | finishing
  | done

/-- `lost` is the bytes of what was still queued when the receiver was dropped, and `taken` those that calls of
`recv_timeout` have taken from the queue and still have to release. -/
structure Outputs where
  pendingOutputBytes : Nat
  queue : List QueuedDriverEvent
  receiver : Bool
  reader : OutputReader
  sequence : Nat
  taken : List Nat
  lost : Nat

def Outputs.spawned : Outputs := ⟨0, [], true, .reading, 0, [], 0⟩

/-- The bound of the specification, a `usize`, and the capacity of the channel. -/
structure OutputBounds where
  maximum : Nat
  capacity : Nat
  maximum_lt : maximum < 2 ^ 64

/-- `AtomicUsize::fetch_sub`. -/
def fetchSub (current bytes : Nat) : Nat := (current + 2 ^ 64 - bytes) % 2 ^ 64

/-- `reserve_pending_output`. -/
def reservePendingOutput (current payloadBytes maximum : Nat) : Except String Nat :=
  if current + payloadBytes < 2 ^ 64 ∧ current + payloadBytes ≤ maximum then .ok (current + payloadBytes)
  else .error s!"driver pending output is {min (current + payloadBytes) (2 ^ 64 - 1)} bytes; maximum is {maximum}"

inductive OutputAction where
  | readFrame (payload : Value) (payloadBytes : Nat)
  | readEnd
  | readError (message : String)
  | send
  | giveBack
  | finish (exited : Option (Option Int × DriverState))
  | receive
  | release (bytes : Nat)
  | dropReceiver

namespace Outputs

/-- `events.send`: an error when the receiver is gone, and no step while the channel is full. -/
def trySend (bounds : OutputBounds) (outputs : Outputs) (queued : QueuedDriverEvent) (sent failed : OutputReader) :
    Option Outputs :=
  if outputs.receiver = false then some { outputs with reader := failed }
  else if outputs.queue.length < bounds.capacity then
    some { outputs with queue := outputs.queue ++ [queued], reader := sent }
  else none

def outputStep (bounds : OutputBounds) (outputs : Outputs) : OutputAction → Option Outputs
  | .readFrame payload payloadBytes =>
      match outputs.reader with
      | .reading =>
          match reservePendingOutput outputs.pendingOutputBytes payloadBytes bounds.maximum with
          | .ok pending => some { outputs with
              pendingOutputBytes := pending
              sequence := outputs.sequence + 1
              reader := .reserved ⟨.message (outputs.sequence + 1) payload, payloadBytes⟩ }
          | .error message => some { outputs with reader := .failing message }
      | _ => none
  | .readEnd =>
      match outputs.reader with
      | .reading => some { outputs with reader := .finishing }
      | _ => none
  | .readError message =>
      match outputs.reader with
      | .reading => some { outputs with reader := .failing message }
      | _ => none
  | .send =>
      match outputs.reader with
      | .reserved queued => trySend bounds outputs queued .reading (.unsent queued.outputBytes)
      | .failing message => trySend bounds outputs ⟨.protocolError message, 0⟩ .finishing .finishing
      | _ => none
  | .giveBack =>
      match outputs.reader with
      | .unsent bytes => some { outputs with
          pendingOutputBytes := fetchSub outputs.pendingOutputBytes bytes
          reader := .done }
      | _ => none
  | .finish exited =>
      match outputs.reader, exited with
      | .finishing, some (code, state) => trySend bounds outputs ⟨.exited code state, 0⟩ .done .done
      | .finishing, none => some { outputs with reader := .done }
      | _, _ => none
  | .receive =>
      match outputs.receiver, outputs.queue with
      | true, queued :: queue =>
          some { outputs with
            queue
            taken := if 0 < queued.outputBytes then queued.outputBytes :: outputs.taken else outputs.taken }
      | _, _ => none
  | .release bytes =>
      if bytes ∈ outputs.taken then
        some { outputs with
          pendingOutputBytes := fetchSub outputs.pendingOutputBytes bytes
          taken := outputs.taken.erase bytes }
      else none
  | .dropReceiver =>
      -- the calls of `recv_timeout` borrow the process, so none is left when it is dropped
      if outputs.receiver = true ∧ outputs.taken = [] then
        some { outputs with
          queue := []
          receiver := false
          lost := (outputs.queue.map QueuedDriverEvent.outputBytes).sum }
      else none

def queuedBytes (outputs : Outputs) : Nat := (outputs.queue.map QueuedDriverEvent.outputBytes).sum

end Outputs

/-- What the reader has reserved and not yet queued or given back. -/
def OutputReader.held : OutputReader → Nat
  | reserved queued => queued.outputBytes
  | unsent bytes => bytes
  | reading | failing _ | finishing | done => 0

/-! ## The counter -/

/-- The counter is what is queued, with the reader, with the receivers or lost, and stays within the bound. -/
structure Accounted (bounds : OutputBounds) (outputs : Outputs) : Prop where
  counted : outputs.pendingOutputBytes =
    outputs.queuedBytes + outputs.reader.held + outputs.taken.sum + outputs.lost
  bounded : outputs.pendingOutputBytes ≤ bounds.maximum
  lost : outputs.receiver = true → outputs.lost = 0

variable {bounds : OutputBounds} {outputs outputs' : Outputs}

theorem fetchSub_eq {current bytes : Nat} (hle : bytes ≤ current) (hlt : current < 2 ^ 64) :
    fetchSub current bytes = current - bytes := by
  unfold fetchSub
  rw [Nat.add_comm, Nat.add_sub_assoc hle, Nat.add_mod_left]
  exact Nat.mod_eq_of_lt (by omega)

theorem reserve_eq_ok {current payloadBytes maximum pending : Nat}
    (h : reservePendingOutput current payloadBytes maximum = .ok pending) :
    pending = current + payloadBytes ∧ pending ≤ maximum := by
  unfold reservePendingOutput at h
  split_ifs at h with hfits
  obtain rfl := Except.ok.inj h
  exact ⟨rfl, hfits.2⟩

theorem trySend_cases {queued : QueuedDriverEvent} {sent failed : OutputReader}
    (h : outputs.trySend bounds queued sent failed = some outputs') :
    outputs' = { outputs with reader := failed } ∨
      outputs' = { outputs with queue := outputs.queue ++ [queued], reader := sent } := by
  unfold Outputs.trySend at h
  split_ifs at h
  · exact Or.inl (Option.some.inj h).symm
  · exact Or.inr (Option.some.inj h).symm

namespace Accounted

theorem spawned (bounds : OutputBounds) : Accounted bounds .spawned := ⟨rfl, Nat.zero_le _, fun _ => rfl⟩

/-- A send moves the bytes from the reader to the queue, and a failed one leaves them with the reader. -/
theorem trySend (haccounted : Accounted bounds outputs) {queued : QueuedDriverEvent} {sent failed : OutputReader}
    (hheld : outputs.reader.held = queued.outputBytes) (hsent : sent.held = 0) (hfailed : failed.held = queued.outputBytes)
    (h : outputs.trySend bounds queued sent failed = some outputs') : Accounted bounds outputs' := by
  have hcounted := haccounted.counted
  unfold Outputs.queuedBytes at hcounted
  rcases trySend_cases h with rfl | rfl
  · refine ⟨?_, haccounted.bounded, haccounted.lost⟩
    rw [hheld] at hcounted
    exact hcounted.trans (by rw [hfailed]; rfl)
  · refine ⟨?_, haccounted.bounded, haccounted.lost⟩
    unfold Outputs.queuedBytes
    rw [List.map_append, List.sum_append, List.map_singleton, List.sum_singleton, hsent]
    dsimp only
    omega

/-- The reader has something to give back only where the counter has it. -/
theorem held_le (haccounted : Accounted bounds outputs) : outputs.reader.held ≤ outputs.pendingOutputBytes := by
  rw [haccounted.counted]
  omega

theorem taken_le (haccounted : Accounted bounds outputs) {bytes : Nat} (hmem : bytes ∈ outputs.taken) :
    bytes ≤ outputs.pendingOutputBytes := by
  have hsum := (List.perm_cons_erase hmem).sum_nat
  rw [List.sum_cons] at hsum
  rw [haccounted.counted]
  omega

theorem fetchSub (haccounted : Accounted bounds outputs) {bytes : Nat} (hle : bytes ≤ outputs.pendingOutputBytes) :
    Drivers.fetchSub outputs.pendingOutputBytes bytes = outputs.pendingOutputBytes - bytes :=
  fetchSub_eq hle (haccounted.bounded.trans_lt bounds.maximum_lt)

theorem step {action : OutputAction} (haccounted : Accounted bounds outputs)
    (h : outputs.outputStep bounds action = some outputs') : Accounted bounds outputs' := by
  have hcounted := haccounted.counted
  have hbounded := haccounted.bounded
  cases action with
  | readFrame payload payloadBytes =>
      cases hreader : outputs.reader with
      | reading =>
          cases hreserve : reservePendingOutput outputs.pendingOutputBytes payloadBytes bounds.maximum with
          | ok pending =>
              simp only [Outputs.outputStep, hreader, hreserve, Option.some.injEq] at h
              obtain ⟨hpending, hmaximum⟩ := reserve_eq_ok hreserve
              rw [hreader] at hcounted
              subst h
              refine ⟨?_, hmaximum, haccounted.lost⟩
              simp only [Outputs.queuedBytes, OutputReader.held] at hcounted ⊢
              omega
          | error message =>
              simp only [Outputs.outputStep, hreader, hreserve, Option.some.injEq] at h
              rw [hreader] at hcounted
              subst h
              exact ⟨hcounted, hbounded, haccounted.lost⟩
      | _ => simp [Outputs.outputStep, hreader] at h
  | readEnd =>
      cases hreader : outputs.reader with
      | reading =>
          simp only [Outputs.outputStep, hreader, Option.some.injEq] at h
          rw [hreader] at hcounted
          subst h
          exact ⟨hcounted, hbounded, haccounted.lost⟩
      | _ => simp [Outputs.outputStep, hreader] at h
  | readError message =>
      cases hreader : outputs.reader with
      | reading =>
          simp only [Outputs.outputStep, hreader, Option.some.injEq] at h
          rw [hreader] at hcounted
          subst h
          exact ⟨hcounted, hbounded, haccounted.lost⟩
      | _ => simp [Outputs.outputStep, hreader] at h
  | send =>
      cases hreader : outputs.reader with
      | reserved queued =>
          simp only [Outputs.outputStep, hreader] at h
          exact haccounted.trySend (by rw [hreader]; rfl) rfl rfl h
      | failing message =>
          simp only [Outputs.outputStep, hreader] at h
          exact haccounted.trySend (by rw [hreader]; rfl) rfl rfl h
      | _ => simp [Outputs.outputStep, hreader] at h
  | giveBack =>
      cases hreader : outputs.reader with
      | unsent bytes =>
          have hle : bytes ≤ outputs.pendingOutputBytes := by
            have hheld := haccounted.held_le
            rwa [hreader] at hheld
          rw [hreader] at hcounted
          simp only [Outputs.outputStep, hreader, haccounted.fetchSub hle, Option.some.injEq] at h
          subst h
          refine ⟨?_, (Nat.sub_le _ _).trans hbounded, haccounted.lost⟩
          simp only [Outputs.queuedBytes, OutputReader.held] at hcounted ⊢
          omega
      | _ => simp [Outputs.outputStep, hreader] at h
  | finish exited =>
      cases hreader : outputs.reader with
      | finishing =>
          cases exited with
          | none =>
              simp only [Outputs.outputStep, hreader, Option.some.injEq] at h
              rw [hreader] at hcounted
              subst h
              exact ⟨hcounted, hbounded, haccounted.lost⟩
          | some report =>
              simp only [Outputs.outputStep, hreader] at h
              exact haccounted.trySend (by rw [hreader]; rfl) rfl rfl h
      | _ => simp [Outputs.outputStep, hreader] at h
  | receive =>
      cases hreceiver : outputs.receiver with
      | false => simp [Outputs.outputStep, hreceiver] at h
      | true =>
          cases hqueue : outputs.queue with
          | nil => simp [Outputs.outputStep, hreceiver, hqueue] at h
          | cons queued queue =>
              simp only [Outputs.outputStep, hreceiver, hqueue, Option.some.injEq] at h
              subst h
              refine ⟨?_, hbounded, fun _ => haccounted.lost hreceiver⟩
              simp only [Outputs.queuedBytes, hqueue, List.map_cons, List.sum_cons] at hcounted ⊢
              split_ifs with hbytes
              · rw [List.sum_cons]
                omega
              · omega
  | release bytes =>
      simp only [Outputs.outputStep] at h
      split_ifs at h with hmem
      rw [haccounted.fetchSub (haccounted.taken_le hmem)] at h
      obtain rfl := Option.some.inj h
      have htaken := (List.perm_cons_erase hmem).sum_nat
      rw [List.sum_cons] at htaken
      refine ⟨?_, (Nat.sub_le _ _).trans hbounded, haccounted.lost⟩
      simp only [Outputs.queuedBytes] at hcounted ⊢
      omega
  | dropReceiver =>
      simp only [Outputs.outputStep] at h
      split_ifs at h with hdrop
      obtain rfl := Option.some.inj h
      have hlost := haccounted.lost hdrop.1
      refine ⟨?_, hbounded, fun hreceiver => (nomatch hreceiver)⟩
      simp only [Outputs.queuedBytes, List.map_nil, List.sum_nil] at hcounted ⊢
      omega

theorem run {actions : List OutputAction} (hrun : runFrom (Outputs.outputStep bounds) .spawned actions = some outputs) :
    Accounted bounds outputs :=
  invariant_run (fun _ _ _ haccounted hstep => step haccounted hstep) (spawned bounds) hrun

end Accounted

/-! ## The inbox over any calls -/

inductive InboxCall where
  | pushBack (event : DriverEvent)
  | popFront

/-- An inbox with the events it has accepted and those it has given back. -/
structure InboxHistory where
  inbox : BoundedDriverInbox
  accepted : List DriverEvent
  popped : List DriverEvent

def InboxHistory.new (maxEvents maxOutputBytes : Nat) : InboxHistory := ⟨.new maxEvents maxOutputBytes, [], []⟩

def inboxCall (history : InboxHistory) : InboxCall → InboxHistory
  | .pushBack event =>
      match history.inbox.pushBack event with
      | .ok inbox => { history with inbox, accepted := history.accepted ++ [event] }
      | .error _ => history
  | .popFront =>
      match history.inbox.popFront with
      | some (event, inbox) => { history with inbox, popped := history.popped ++ [event] }
      | none => history

structure InboxSound (maxEvents maxOutputBytes : Nat) (history : InboxHistory) : Prop where
  maxima : history.inbox.maxEvents = maxEvents ∧ history.inbox.maxOutputBytes = maxOutputBytes
  /-- First in, first out. -/
  fifo : history.popped ++ history.inbox.pending = history.accepted
  sizes : ∀ entry ∈ history.inbox.events, entry.2 = driverEventOutputBytes entry.1
  bytes : history.inbox.outputBytes = (history.inbox.events.map Prod.snd).sum
  events_le : history.inbox.events.length ≤ maxEvents
  bytes_le : history.inbox.outputBytes ≤ maxOutputBytes

variable {maxEvents maxOutputBytes : Nat} {history : InboxHistory}

theorem pushBack_eq_ok {inbox inbox' : BoundedDriverInbox} {event : DriverEvent} (h : inbox.pushBack event = .ok inbox') :
    inbox' = { inbox with
      events := inbox.events ++ [(event, driverEventOutputBytes event)]
      outputBytes := inbox.outputBytes + driverEventOutputBytes event } := by
  unfold BoundedDriverInbox.pushBack at h
  dsimp only at h
  split_ifs at h
  exact (Except.ok.inj h).symm

theorem InboxSound.call (hsound : InboxSound maxEvents maxOutputBytes history) (call : InboxCall) :
    InboxSound maxEvents maxOutputBytes (inboxCall history call) := by
  cases call with
  | pushBack event =>
      cases hpush : history.inbox.pushBack event with
      | error refused =>
          simp only [inboxCall, hpush]
          exact hsound
      | ok inbox =>
          obtain ⟨hsum, hroom, hmax⟩ := BoundedDriverInbox.hasRoom_of_pushBack hpush
          have hpending := BoundedDriverInbox.pending_of_pushBack hpush
          obtain rfl := pushBack_eq_ok hpush
          obtain ⟨⟨rfl, rfl⟩, hfifo, hsizes, hbytes, hevents, -⟩ := hsound
          simp only [inboxCall, hpush]
          refine ⟨⟨rfl, rfl⟩, ?_, ?_, ?_, ?_, hmax⟩
          · dsimp only
            rw [hpending, ← List.append_assoc, hfifo]
          · intro entry hentry
            rcases List.mem_append.mp hentry with hold | hnew
            · exact hsizes entry hold
            · rw [List.mem_singleton.mp hnew]
          · simp only [List.map_append, List.sum_append, List.map_singleton, List.sum_singleton, hbytes]
          · simp only [List.length_append, List.length_singleton]
            omega
  | popFront =>
      cases hevents : history.inbox.events with
      | nil =>
          simp only [inboxCall, BoundedDriverInbox.popFront, hevents]
          exact hsound
      | cons entry events =>
          obtain ⟨event, outputBytes⟩ := entry
          obtain ⟨hmaxima, hfifo, hsizes, hbytes, hlength, hle⟩ := hsound
          rw [BoundedDriverInbox.pending, hevents] at hfifo
          rw [hevents] at hsizes hbytes hlength
          simp only [List.map_cons, List.sum_cons] at hbytes
          simp only [inboxCall, BoundedDriverInbox.popFront, hevents]
          refine ⟨hmaxima, ?_, fun entry hentry => hsizes entry (List.mem_cons_of_mem _ hentry), ?_, ?_, ?_⟩
          · rw [← hfifo, List.append_assoc]
            rfl
          · dsimp only
            omega
          · exact (Nat.le_succ _).trans hlength
          · exact (Nat.sub_le _ _).trans hle

theorem InboxSound.calls (maxEvents maxOutputBytes : Nat) (calls : List InboxCall) :
    InboxSound maxEvents maxOutputBytes (calls.foldl inboxCall (.new maxEvents maxOutputBytes)) := by
  have hnew : InboxSound maxEvents maxOutputBytes (.new maxEvents maxOutputBytes) :=
    ⟨⟨rfl, rfl⟩, rfl, fun _ hentry => absurd hentry List.not_mem_nil, rfl, Nat.zero_le _, Nat.zero_le _⟩
  generalize InboxHistory.new maxEvents maxOutputBytes = history at hnew
  induction calls generalizing history with
  | nil => exact hnew
  | cons call calls ih => exact ih _ (hnew.call call)

/-- **Main result.** In every run the counter is the bytes that are queued, reserved by the reader, taken and not yet
released, or lost with the receiver; nothing that is subtracted exceeds it, and it stays within the bound. While the
process exists and nobody is between two operations it is the bytes that are queued. The inbox is first in first out,
counts its bytes, stays within its bounds, and a refused event leaves it as it was. -/
theorem pending_output_accounted :
    (∀ (bounds : OutputBounds) (actions : List OutputAction) (outputs : Outputs),
      runFrom (Outputs.outputStep bounds) .spawned actions = some outputs →
        outputs.pendingOutputBytes =
          outputs.queuedBytes + outputs.reader.held + outputs.taken.sum + outputs.lost ∧
        outputs.pendingOutputBytes ≤ bounds.maximum ∧
        outputs.reader.held ≤ outputs.pendingOutputBytes ∧
        (∀ bytes ∈ outputs.taken, bytes ≤ outputs.pendingOutputBytes) ∧
        (outputs.receiver = true → outputs.reader.held = 0 → outputs.taken = [] →
          outputs.pendingOutputBytes = outputs.queuedBytes)) ∧
    (∀ (maxEvents maxOutputBytes : Nat) (calls : List InboxCall),
      InboxSound maxEvents maxOutputBytes (calls.foldl inboxCall (.new maxEvents maxOutputBytes))) ∧
    ∀ (history : InboxHistory) (event refused : DriverEvent), history.inbox.pushBack event = .error refused →
      inboxCall history (.pushBack event) = history ∧ refused = event := by
  refine ⟨fun bounds actions outputs hrun => ?_, InboxSound.calls, fun history event refused hpush => ⟨?_, ?_⟩⟩
  · have haccounted := Accounted.run hrun
    refine ⟨haccounted.counted, haccounted.bounded, haccounted.held_le, fun _ => haccounted.taken_le, ?_⟩
    intro hreceiver hheld htaken
    have hcounted := haccounted.counted
    rw [hheld, htaken, haccounted.lost hreceiver] at hcounted
    exact hcounted
  · simp only [inboxCall, hpush]
  · have hroom := BoundedDriverInbox.not_hasRoom_of_pushBack hpush
    rw [BoundedDriverInbox.pushBack_eq_error hroom] at hpush
    exact (Except.error.inj hpush).symm

/-- A message of four bytes on its way from the reader to whoever receives it. -/
def passage : List OutputAction := [.readFrame .null 4, .send, .receive, .release 4]

def passed : Outputs := ⟨0, [], true, .reading, 1, [], 0⟩

theorem pending_output_accounted_passage :
    runFrom (Outputs.outputStep ⟨8, 256, by decide⟩) .spawned passage = some passed ∧
      passed.pendingOutputBytes = passed.queuedBytes ∧ passed.pendingOutputBytes ≤ 8 ∧
      inboxCall (.new 0 0) (.pushBack (.exited none .closed)) = .new 0 0 := by
  obtain ⟨-, hbounded, -, -, hsettled⟩ := pending_output_accounted.1 ⟨8, 256, by decide⟩ passage passed rfl
  exact ⟨rfl, hsettled rfl rfl rfl, hbounded,
    (pending_output_accounted.2.2 (.new 0 0) (.exited none .closed) (.exited none .closed) rfl).1⟩

/-- Between reservation and sending the counter is ahead of the queue. -/
theorem reserved_before_queued : ¬∀ (bounds : OutputBounds) (actions : List OutputAction) (outputs : Outputs),
    runFrom (Outputs.outputStep bounds) .spawned actions = some outputs →
      outputs.pendingOutputBytes = outputs.queuedBytes := by
  intro h
  have hreserved := h ⟨8, 256, by decide⟩ [.readFrame .null 4]
    ⟨4, [], true, .reserved ⟨.message 1 .null, 4⟩, 1, [], 0⟩ rfl
  exact absurd hreserved (by decide)

end HyperTerm.Drivers
