import HyperTerm.Drivers.Events
import HyperTerm.Lib.Threads

/-!
# The state of a driver process

The callers of a `DriverProcess` and the reader of its output share the state, under a mutex, and a flag that says
whether an effect is in flight. Every access to one of them is an operation, and the methods are programs.

* `DriverShared` : what is shared, with what has happened so far;
* `beginEffect` … `stop`, `finishAfterOutputClosed` : the methods and the end of the reader;
* `Settled` : what is asked of every state.

The environment decides how a wait for the end of the process comes out. It is a parameter of the program.
-/

namespace HyperTerm.Drivers
open HyperTerm.Lib

/-- The name of a state in an error. -/
def DriverState.text : DriverState → String
  | starting => "starting"
  | ready => "ready"
  | busy => "busy"
  | waiting => "waiting"
  | closing => "closing"
  | closed => "closed"
  | failed => "failed"
  | unknownExecution => "unknown execution"

/-- The state, the flags and the `Exited` events, and below them what has happened. Effects are numbered in the order
in which the state became `busy`. -/
structure DriverShared where
  state : DriverState
  effectInFlight : Bool
  exitReported : Bool
  exited : List DriverState
  /-- The process is gone. -/
  ended : Bool
  /-- It went while an effect was begun and not finished. -/
  endedInEffect : Bool
  /-- The first terminal state. -/
  terminal : Option DriverState
  /-- The reader is past its loop. -/
  outputClosed : Bool
  /-- The reader has taken the flag. -/
  swapped : Bool
  effects : Nat
  /-- The state is `busy`, but the flag is not yet set. -/
  beginning : List Nat
  /-- `begin_effect` returned. -/
  begun : List Nat
  /-- The flag was reset for them. -/
  cleared : List Nat
  /-- `finish_effect` or `resolve_waiting` returned. -/
  finished : List Nat
  deriving DecidableEq

/-- A process that was just spawned. -/
def DriverShared.spawned : DriverShared where
  state := .starting
  effectInFlight := false
  exitReported := false
  exited := []
  ended := false
  endedInEffect := false
  terminal := none
  outputClosed := false
  swapped := false
  effects := 0
  beginning := []
  begun := []
  cleared := []
  finished := []

/-! ## Operations -/

inductive ProcessOp where
  | transition (expected next : DriverState)
  | storeEffect (effect : Nat) (value : Bool)
  | finishReturned (effect : Nat)
  /-- In `recv_timeout`. -/
  | loadEffect
  /-- In `stop`. -/
  | loadUncertain
  | swapEffect
  | readState
  | setState (state : DriverState)
  /-- `wait_for_exit`: whether the process was successful, if it ended in time. -/
  | waitForExit (status : Option Bool)
  /-- `terminate_process`; the status is missing if it was taken before. -/
  | terminateProcess (status : Except ProcessError (Option Bool))
  | reportExit (state : DriverState)

abbrev ProcessAns : ProcessOp → Type
  | .transition _ _ => Except DriverState Nat
  | .loadEffect | .loadUncertain | .swapEffect => Bool
  | .readState => DriverState
  | _ => Unit

namespace DriverShared

def InEffect (s : DriverShared) : Prop := ∃ k ∈ s.begun, k ∉ s.finished

instance (s : DriverShared) : Decidable s.InEffect := inferInstanceAs (Decidable (∃ k ∈ s.begun, k ∉ s.finished))

def markEnded (s : DriverShared) : DriverShared :=
  if s.ended then s else { s with ended := true, endedInEffect := s.InEffect }

def setState (s : DriverShared) (state : DriverState) : DriverShared :=
  { s with state, terminal := s.terminal.or (if state.isTerminal then some state else none) }

/-- `transition`. -/
def transition (s : DriverShared) (expected next : DriverState) : DriverShared × Except DriverState Nat :=
  if s.state ≠ expected then (s, .error s.state)
  else if expected = .ready then
    ({ s with state := next, effects := s.effects + 1, beginning := (s.effects + 1) :: s.beginning }, .ok (s.effects + 1))
  else ({ s with state := next }, .ok s.effects)

def storeEffect (s : DriverShared) (effect : Nat) (value : Bool) : DriverShared :=
  if value then
    { s with effectInFlight := true, beginning := s.beginning.erase effect, begun := effect :: s.begun }
  else { s with effectInFlight := false, cleared := effect :: s.cleared }

def reportExit (s : DriverShared) (state : DriverState) : DriverShared :=
  if s.exitReported then s else { s with exitReported := true, exited := state :: s.exited }

end DriverShared

def execProcess : (op : ProcessOp) → DriverShared → DriverShared × ProcessAns op
  | .transition expected next, s => s.transition expected next
  | .storeEffect effect value, s => (s.storeEffect effect value, ())
  | .finishReturned effect, s => ({ s with finished := effect :: s.finished }, ())
  | .loadEffect, s => (s, s.effectInFlight)
  | .loadUncertain, s => (s, s.effectInFlight)
  | .swapEffect, s => ({ s with effectInFlight := false, swapped := true }, s.effectInFlight)
  | .readState, s => (s, s.state)
  | .setState state, s => (s.setState state, ())
  | .waitForExit none, s => (s, ())
  | .waitForExit (some _), s => (s.markEnded, ())
  | .terminateProcess (.error _), s => (s, ())
  | .terminateProcess (.ok _), s => (s.markEnded, ())
  | .reportExit state, s => (s.reportExit state, ())

/-! ## Methods -/

abbrev ProcessProg (α : Type) := Prog ProcessOp ProcessAns ProcessError α

def access (op : ProcessOp) : ProcessProg (ProcessAns op) := Prog.perform op

def transition (expected next : DriverState) : ProcessProg Nat := do
  match (← access (.transition expected next) : Except DriverState Nat) with
  | .ok effect => pure effect
  | .error actual => Prog.fail (.illegalState expected.text actual)

def markReady : ProcessProg Unit := do
  let _ ← transition .starting .ready

def beginEffect : ProcessProg Unit := do
  let effect ← transition .ready .busy
  access (.storeEffect effect true)

def finishEffect : ProcessProg Unit := do
  let effect ← transition .busy .ready
  access (.storeEffect effect false)
  access (.finishReturned effect)

def markWaiting : ProcessProg Unit := do
  let _ ← transition .busy .waiting

def resolveWaiting : ProcessProg Unit := do
  let effect ← transition .waiting .ready
  access (.storeEffect effect false)
  access (.finishReturned effect)

def terminateProcess (status : Except ProcessError (Option Bool)) : ProcessProg (Option Bool) := do
  access (.terminateProcess status)
  Prog.ret status

def stop (status : Except ProcessError (Option Bool)) : ProcessProg DriverState := do
  let current ← access .readState
  if current.isTerminal then pure current
  else do
    access (.setState .closing)
    let uncertain ← access .loadUncertain
    let status ← terminateProcess status
    let finalState :=
      if uncertain then DriverState.unknownExecution
      else if status.isSome then .closed
      else .failed
    access (.setState finalState)
    pure finalState

/-- `recv_timeout` without an event. -/
def recvTimeout (status : Except ProcessError (Option Bool)) : ProcessProg Unit := do
  if ← access .loadEffect then do
    let state ← stop status
    Prog.fail (.effectTimedOut state)
  else Prog.fail .timeout

/-- The state in which the reader leaves the process. -/
def finalState (protocolFailed : Bool) (status : Option Bool) (previous : DriverState) (uncertain : Bool) :
    DriverState :=
  if previous.isTerminal then previous
  else if uncertain then .unknownExecution
  else if protocolFailed then .failed
  else if previous = .closing ∨ status = some true then .closed
  else .failed

/-- What the reader learns of the exit: the outcome of the wait, or else of the termination. -/
def exitStatus (exit : Option Bool) (terminated : Except ProcessError (Option Bool)) : ProcessProg (Option Bool) := do
  access (.waitForExit exit)
  if exit.isSome then pure exit
  else do
    match ← (terminateProcess terminated).attempt with
    | .ok status => pure status
    | .error _ => pure none

/-- The end of the reader. -/
def finishAfterOutputClosed (protocolFailed : Bool) (exit : Option Bool)
    (terminated : Except ProcessError (Option Bool)) : ProcessProg Unit := do
  let status ← exitStatus exit terminated
  let previous ← access .readState
  let uncertain ← access .swapEffect
  access (.setState (finalState protocolFailed status previous uncertain))
  access (.reportExit (finalState protocolFailed status previous uncertain))

/-! ## Runs -/

inductive DriverCall where
  | markReady
  | beginEffect
  | finishEffect
  | markWaiting
  | resolveWaiting
  | recvTimeout (status : Except ProcessError (Option Bool))
  | stop (status : Except ProcessError (Option Bool))

def DriverCall.program : DriverCall → ProcessProg Unit
  | markReady => Drivers.markReady
  | beginEffect => Drivers.beginEffect
  | finishEffect => Drivers.finishEffect
  | markWaiting => Drivers.markWaiting
  | resolveWaiting => Drivers.resolveWaiting
  | recvTimeout status => Drivers.recvTimeout status
  | stop status => do
      let _ ← Drivers.stop status

/-- A call at any time, and the end of the reader once. -/
inductive ProcessStarts : DriverShared → ProcessProg Unit → DriverShared → Prop
  | call (s : DriverShared) (call : DriverCall) : ProcessStarts s call.program s
  | reader (s : DriverShared) (protocolFailed : Bool) (exit : Option Bool)
      (terminated : Except ProcessError (Option Bool)) (h : s.outputClosed = false) :
      ProcessStarts s (finishAfterOutputClosed protocolFailed exit terminated) { s with outputClosed := true }

/-- The process ends by itself. -/
def ProcessEnds (condition : DriverShared → Prop) (s s' : DriverShared) : Prop := condition s ∧ s' = s.markEnded

abbrev ProcessPool := Pool ProcessOp ProcessAns ProcessError DriverShared

/-- What is asked: a terminal state stays, and if the process ended in an effect, the execution is unknown. -/
structure Settled (s : DriverShared) : Prop where
  once : ∀ state, s.terminal = some state → s.state = state
  unknown : s.endedInEffect = true → s.state.isTerminal = true → s.state = .unknownExecution
  exited : s.endedInEffect = true → ∀ state ∈ s.exited, state = .unknownExecution
  final : s.exited ≠ [] → s.state.isTerminal = true

/-! ## The condition -/

/-- The process does not end between the reset of the flag in `finish_effect` or `resolve_waiting` and their return. -/
def EndAllowed (s : DriverShared) : Prop := s.ended = true ∨ ∀ k ∈ s.begun, k ∉ s.finished → k ∉ s.cleared

/-- A terminal state is not overwritten with another. The flag is reset neither while it stands for a later effect nor
after the process ended in one; `stop` finds it set, unless no `begin_effect` is under way and the process did not end
in an effect; the reader takes it when the process has ended. -/
def OpAllowed : ProcessOp → DriverShared → Prop
  | .setState state, s => s.state.isTerminal = true → s.state = state
  | .storeEffect effect false, s =>
      s.effectInFlight = false ∨ s.endedInEffect = false ∧ ∀ k ∈ s.begun, k ≠ effect → k ∈ s.cleared
  | .loadUncertain, s => s.effectInFlight = true ∨ s.beginning = [] ∧ s.endedInEffect = false
  | .swapEffect, s => s.ended = true
  | .waitForExit (some _), s => EndAllowed s
  | .terminateProcess (.ok _), s => EndAllowed s
  | _, _ => True

instance (s : DriverShared) : Decidable (EndAllowed s) :=
  inferInstanceAs (Decidable (_ ∨ ∀ k ∈ s.begun, k ∉ s.finished → k ∉ s.cleared))

instance (op : ProcessOp) (s : DriverShared) : Decidable (OpAllowed op s) :=
  match op with
  | .setState state => inferInstanceAs (Decidable (s.state.isTerminal = true → s.state = state))
  | .storeEffect effect false =>
      inferInstanceAs (Decidable (_ ∨ _ ∧ ∀ k ∈ s.begun, k ≠ effect → k ∈ s.cleared))
  | .loadUncertain => inferInstanceAs (Decidable (_ ∨ s.beginning = [] ∧ _))
  | .swapEffect => inferInstanceAs (Decidable (s.ended = true))
  | .waitForExit (some _) => inferInstanceAs (Decidable (EndAllowed s))
  | .terminateProcess (.ok _) => inferInstanceAs (Decidable (EndAllowed s))
  | .storeEffect _ true | .transition _ _ | .finishReturned _ | .loadEffect | .readState | .waitForExit none
  | .terminateProcess (.error _) | .reportExit _ => inferInstanceAs (Decidable True)

end HyperTerm.Drivers
