import HyperTerm.Protocol.Json

/-!
# The events of a driver process

* `DriverEvent` : what the reader of a process hands to its adapter;
* `BoundedDriverInbox` : the events an adapter sets aside, with a bound on their number and on their bytes;
* `sendJson` : what writing to the process gives, in the state it is in.
-/

namespace HyperTerm.Drivers
open HyperTerm.Protocol

inductive DriverState where
  | starting
  | ready
  | busy
  | waiting
  | closing
  | closed
  | failed
  | unknownExecution
  deriving DecidableEq

def DriverState.isTerminal : DriverState → Bool
  | closed | failed | unknownExecution => true
  | _ => false

inductive DriverEvent where
  | message (sequence : Nat) (payload : Value)
  | protocolError (message : String)
  | exited (code : Option Int) (state : DriverState)

def driverEventOutputBytes : DriverEvent → Nat
  | .message _ payload => payload.size
  | .protocolError message => message.utf8ByteSize
  | .exited _ _ => 0

/-! ## The inbox -/

structure BoundedDriverInbox where
  events : List (DriverEvent × Nat)
  outputBytes : Nat
  maxEvents : Nat
  maxOutputBytes : Nat

namespace BoundedDriverInbox

def new (maxEvents maxOutputBytes : Nat) : BoundedDriverInbox where
  events := []
  outputBytes := 0
  maxEvents := maxEvents
  maxOutputBytes := maxOutputBytes

/-- The event fits; the sum is also checked to be a `usize`. -/
def HasRoom (inbox : BoundedDriverInbox) (event : DriverEvent) : Prop :=
  inbox.outputBytes + driverEventOutputBytes event < 2 ^ 64 ∧ inbox.events.length ≠ inbox.maxEvents ∧
    inbox.outputBytes + driverEventOutputBytes event ≤ inbox.maxOutputBytes

instance (inbox : BoundedDriverInbox) (event : DriverEvent) : Decidable (inbox.HasRoom event) :=
  inferInstanceAs (Decidable (_ ∧ _ ∧ _))

def pushBack (inbox : BoundedDriverInbox) (event : DriverEvent) : Except DriverEvent BoundedDriverInbox :=
  let outputBytes := driverEventOutputBytes event
  if 2 ^ 64 ≤ inbox.outputBytes + outputBytes then .error event
  else if inbox.events.length = inbox.maxEvents ∨ inbox.maxOutputBytes < inbox.outputBytes + outputBytes then
    .error event
  else
    .ok { inbox with
      events := inbox.events ++ [(event, outputBytes)]
      outputBytes := inbox.outputBytes + outputBytes }

def popFront (inbox : BoundedDriverInbox) : Option (DriverEvent × BoundedDriverInbox) :=
  match inbox.events with
  | [] => none
  | (event, outputBytes) :: events =>
      some (event, { inbox with events, outputBytes := inbox.outputBytes - outputBytes })

/-- The events of the inbox, oldest first. -/
def pending (inbox : BoundedDriverInbox) : List DriverEvent := inbox.events.map Prod.fst

variable {inbox inbox' : BoundedDriverInbox} {event : DriverEvent}

theorem pushBack_eq_error (h : ¬inbox.HasRoom event) : inbox.pushBack event = .error event := by
  unfold HasRoom at h
  unfold pushBack
  dsimp only
  split_ifs with hsum hfull
  · rfl
  · rfl
  · exact absurd ⟨by omega, by omega, by omega⟩ h

theorem pending_of_pushBack (h : inbox.pushBack event = .ok inbox') : inbox'.pending = inbox.pending ++ [event] := by
  unfold pushBack at h
  dsimp only at h
  split_ifs at h
  obtain rfl := Except.ok.inj h
  exact List.map_append

theorem hasRoom_of_pushBack (h : inbox.pushBack event = .ok inbox') : inbox.HasRoom event := by
  by_contra hroom
  rw [pushBack_eq_error hroom] at h
  cases h

theorem not_hasRoom_of_pushBack {refused : DriverEvent} (h : inbox.pushBack event = .error refused) :
    ¬inbox.HasRoom event := by
  rintro ⟨hsum, hfull, hmax⟩
  unfold pushBack at h
  dsimp only at h
  rw [if_neg (by omega), if_neg (by omega)] at h
  cases h

theorem pending_of_popFront (h : inbox.popFront = some (event, inbox')) : inbox.pending = event :: inbox'.pending := by
  unfold popFront at h
  unfold pending
  cases hevents : inbox.events with
  | nil =>
      rw [hevents] at h
      cases h
  | cons entry events =>
      rw [hevents] at h
      obtain ⟨rfl, rfl⟩ := Prod.mk.inj (Option.some.inj h)
      rfl

theorem popFront_eq_none (h : inbox.popFront = none) : inbox.pending = [] := by
  unfold popFront at h
  unfold pending
  cases hevents : inbox.events with
  | nil => rfl
  | cons entry events =>
      rw [hevents] at h
      cases h

end BoundedDriverInbox

/-! ## Writing to the process -/

/-- The errors of writing to a process and of receiving from it. -/
inductive ProcessError where
  | illegalState (expected : String) (actual : DriverState)
  | inputClosed
  | frameTooLarge (size maximum : Nat)
  | io
  | timeout
  | effectTimedOut (state : DriverState)
  | eventStreamClosed
  deriving DecidableEq

/-- The state of the process, whether its input is still there, and whether the pipe takes what is written. -/
structure ProcessInput where
  state : DriverState
  input : Bool
  writes : Bool

def sendJson (maxFrameBytes : Nat) (process : ProcessInput) (payload : Value) : Except ProcessError Unit :=
  if process.state.isTerminal ∨ process.state = .closing then .error (.illegalState "a live driver" process.state)
  else if ¬process.input then .error .inputClosed
  else if maxFrameBytes < payload.size then .error (.frameTooLarge payload.size maxFrameBytes)
  else if ¬process.writes then .error .io
  else .ok ()

end HyperTerm.Drivers
