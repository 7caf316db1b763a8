import HyperTerm.Core.Terminal
import HyperTerm.Daemon.Authority
import HyperTerm.Lib.Monitor

/-!
# Attachments of the web terminal

A browser that reconnects finds its terminal again by an attachment. The gateway counts the sizes and the inputs it has
passed on, and so does the terminal's session; `Lockstep` says that the two agree.

The methods of `GatewayRuntime` hold the lock of the attachments over all their calls of the daemon. The exit of a
terminal and the release of a lease do not wait for it.
-/

namespace HyperTerm.Daemon
open HyperTerm.Protocol HyperTerm.Core HyperTerm.Lib

/-! ## The daemon's terminals -/

/-- The errors of the daemon's methods for terminals. -/
inductive TerminalRequestError where
  | terminal (error : TerminalError)
  | terminalContextMissing (terminalId : TerminalId)
  | inputLeaseHeld (terminalId : TerminalId)
  | inputLeaseMissing (terminalId : TerminalId)
  | inputLeaseMismatch (terminalId : TerminalId)
  | record (error : DaemonError)
  deriving DecidableEq

inductive TerminalContext where
  | operation (taskId : TaskId) (operationId : OperationId)
  | userShell
  deriving DecidableEq

structure InputLease where
  leaseId : InputLeaseId
  clientId : ClientId
  generation : Nat
  deriving DecidableEq

structure Attachment where
  sessionId : Nat
  terminalId : TerminalId
  clientId : ClientId
  nextInputSequence : Nat
  resizeGeneration : Nat
  activeConnection : Option Uuid
  metadataRevision : Nat
  title : Option String
  cwd : Option String
  deriving DecidableEq

structure GatewayState where
  attachments : TerminalAttachmentId → Option Attachment
  sessions : TerminalId → Option TerminalSession
  contexts : TerminalId → Option TerminalContext
  leases : TerminalId → Option InputLease
  leaseGenerations : TerminalId → Nat
  cancelled : TerminalId → Bool

def GatewayState.start : GatewayState :=
  ⟨fun _ => none, fun _ => none, fun _ => none, fun _ => none, fun _ => 0, fun _ => false⟩

/-- How starting a shell goes: it fails, the thread that watches it does not start, or it runs. -/
inductive ShellSpawn where
  | failed (message : String)
  | unmonitored (message : String)
  | opened

namespace GatewayState

def resizeSession (s : GatewayState) (terminalId : TerminalId) (resized : Except String Unit) (generation : Nat)
    (size : TerminalSize) : GatewayState × Except TerminalRequestError Unit :=
  match s.sessions terminalId with
  | none => (s, .error (.terminal (.notFound terminalId)))
  | some session =>
      let (session, result) := session.resize resized generation size
      ({ s with sessions := Function.update s.sessions terminalId (some session) }, result.mapError .terminal)

def acquireInputLease (s : GatewayState) (terminalId : TerminalId) (clientId : ClientId) (leaseId : InputLeaseId) :
    GatewayState × Except TerminalRequestError (InputLeaseId × Nat) :=
  match s.sessions terminalId with
  | none => (s, .error (.terminal (.notFound terminalId)))
  | some _ =>
      match s.leases terminalId with
      | some existing =>
          if existing.clientId = clientId then (s, .ok (existing.leaseId, existing.generation))
          else (s, .error (.inputLeaseHeld terminalId))
      | none =>
          let generation := s.leaseGenerations terminalId + 1
          ({ s with
              leaseGenerations := Function.update s.leaseGenerations terminalId generation
              leases := Function.update s.leases terminalId (some ⟨leaseId, clientId, generation⟩) },
            .ok (leaseId, generation))

def releaseInputLease (s : GatewayState) (terminalId : TerminalId) (leaseId : InputLeaseId) (clientId : ClientId) :
    GatewayState × Except TerminalRequestError Unit :=
  match s.leases terminalId with
  | none => (s, .error (.inputLeaseMissing terminalId))
  | some existing =>
      if existing.leaseId ≠ leaseId ∨ existing.clientId ≠ clientId then
        (s, .error (.inputLeaseMismatch terminalId))
      else ({ s with leases := Function.update s.leases terminalId none }, .ok ())

def writeTerminalInput (s : GatewayState) (clientId : ClientId) (terminalId : TerminalId) (leaseId : InputLeaseId)
    (sequence : Nat) (bytes : List UInt8) (written : Except String Unit) :
    GatewayState × Except TerminalRequestError Unit :=
  match s.leases terminalId with
  | none => (s, .error (.inputLeaseMissing terminalId))
  | some lease =>
      if lease.leaseId ≠ leaseId ∨ lease.clientId ≠ clientId then (s, .error (.inputLeaseMismatch terminalId))
      else
        match s.sessions terminalId with
        | none => (s, .error (.terminal (.notFound terminalId)))
        | some session =>
            let (session, result) := session.writeInput written sequence bytes
            ({ s with sessions := Function.update s.sessions terminalId (some session) }, result.mapError .terminal)

/-- `killed` is how killing the process goes. -/
def closeTerminal (s : GatewayState) (terminalId : TerminalId) (killed : Except String Unit) :
    GatewayState × Except TerminalRequestError Unit :=
  match s.sessions terminalId with
  | none => (s, .error (.terminal (.notFound terminalId)))
  | some session =>
      if session.exit.isSome then (s, .ok ())
      else ({ s with cancelled := Function.update s.cancelled terminalId true },
        killed.mapError fun message => .terminal (.io message))

def openUserShell (s : GatewayState) (terminalId : TerminalId) (size : TerminalSize) (spawned : ShellSpawn) :
    GatewayState × Except TerminalRequestError TerminalId :=
  match TerminalSize.validate size, spawned with
  | .error message, _ => (s, .error (.terminal (.invalidSize message)))
  | .ok (), .failed message => (s, .error (.terminal (.spawn message)))
  | .ok (), .unmonitored message =>
      ({ s with sessions := Function.update s.sessions terminalId (some .new) },
        .error (.terminal (.io message)))
  | .ok (), .opened =>
      ({ s with
          sessions := Function.update s.sessions terminalId (some .new)
          contexts := Function.update s.contexts terminalId (some .userShell) }, .ok terminalId)

/-- The process ends, and the replay buffer says so. -/
def exited (s : GatewayState) (terminalId : TerminalId) (exit : TerminalExit) : GatewayState :=
  { s with
    sessions := Function.update s.sessions terminalId
      ((s.sessions terminalId).map fun session => { session with exit := some exit }) }

/-- `finalize_terminal`, for a shell. -/
def finalizeTerminal (s : GatewayState) (terminalId : TerminalId) : GatewayState :=
  { s with
    cancelled := Function.update s.cancelled terminalId false
    contexts := Function.update s.contexts terminalId none
    leases := Function.update s.leases terminalId none }

end GatewayState

/-! ## The gateway's methods -/

inductive ConnectionError where
  | attachmentBusy
  | attachmentSessionMismatch
  | invalidSessionId (sessionId : Nat)
  | inputSequence (expected actual : Nat)
  | resizeGeneration (expected actual : Nat)
  | invalidMetadata
  | invalidMessage (message : String)
  | attachmentState
  | daemon (error : TerminalRequestError)
  deriving DecidableEq

inductive GatewayOp where
  | attachment (attachmentId : TerminalAttachmentId)
  | insert (attachmentId : TerminalAttachmentId) (attachment : Attachment)
  | remove (attachmentId : TerminalAttachmentId)
  | findSession (sessionId : Nat) (order : List TerminalAttachmentId)
  | resizeSession (terminalId : TerminalId) (resized : Except String Unit) (generation : Nat) (size : TerminalSize)
  | terminalContext (terminalId : TerminalId)
  | acquireInputLease (terminalId : TerminalId) (clientId : ClientId) (leaseId : InputLeaseId)
  | writeTerminalInput (clientId : ClientId) (terminalId : TerminalId) (leaseId : InputLeaseId) (sequence : Nat)
      (bytes : List UInt8) (written : Except String Unit)
  | closeTerminal (terminalId : TerminalId) (killed : Except String Unit)
  | openUserShell (terminalId : TerminalId) (size : TerminalSize) (spawned : ShellSpawn)

abbrev GatewayAns : GatewayOp → Type
  | .attachment _ => Option Attachment
  | .insert _ _ | .remove _ => Unit
  | .findSession _ _ => Option (TerminalAttachmentId × TerminalId)
  | .resizeSession .. | .writeTerminalInput .. | .closeTerminal .. => Except TerminalRequestError Unit
  | .terminalContext _ => Except TerminalRequestError TerminalContext
  | .acquireInputLease .. => Except TerminalRequestError (InputLeaseId × Nat)
  | .openUserShell .. => Except TerminalRequestError TerminalId

/-- `order` is the order in which the hash map of the attachments is searched. -/
def execGateway : (op : GatewayOp) → GatewayState → GatewayState × GatewayAns op
  | .attachment attachmentId, s => (s, s.attachments attachmentId)
  | .insert attachmentId attachment, s =>
      ({ s with attachments := Function.update s.attachments attachmentId (some attachment) }, ())
  | .remove attachmentId, s => ({ s with attachments := Function.update s.attachments attachmentId none }, ())
  | .findSession sessionId order, s =>
      (s, (order.find? fun id => (s.attachments id).any fun a => a.sessionId = sessionId).bind fun id =>
        (s.attachments id).map fun a => (id, a.terminalId))
  | .resizeSession terminalId resized generation size, s => s.resizeSession terminalId resized generation size
  | .terminalContext terminalId, s => (s, okOr (s.contexts terminalId) (.terminalContextMissing terminalId))
  | .acquireInputLease terminalId clientId leaseId, s => s.acquireInputLease terminalId clientId leaseId
  | .writeTerminalInput clientId terminalId leaseId sequence bytes written, s =>
      s.writeTerminalInput clientId terminalId leaseId sequence bytes written
  | .closeTerminal terminalId killed, s => s.closeTerminal terminalId killed
  | .openUserShell terminalId size spawned, s => s.openUserShell terminalId size spawned

abbrev GatewayMethod := Prog GatewayOp GatewayAns ConnectionError

namespace GatewayMethod

def lift {α : Type} (r : Except ConnectionError α) : GatewayMethod α := .ret r

def ensure (condition : Prop) [Decidable condition] (e : ConnectionError) : GatewayMethod Unit :=
  lift (if condition then .ok () else .error e)

def daemon {α : Type} (m : GatewayMethod (Except TerminalRequestError α)) : GatewayMethod α := do
  let r ← m
  lift (r.mapError .daemon)

def resizeSession (terminalId : TerminalId) (resized : Except String Unit) (generation : Nat) (size : TerminalSize) :
    GatewayMethod Unit := daemon (Prog.perform (GatewayOp.resizeSession terminalId resized generation size))

def terminalContext (terminalId : TerminalId) : GatewayMethod TerminalContext :=
  daemon (Prog.perform (GatewayOp.terminalContext terminalId))

def acquireInputLease (terminalId : TerminalId) (clientId : ClientId) (leaseId : InputLeaseId) :
    GatewayMethod (InputLeaseId × Nat) :=
  daemon (Prog.perform (GatewayOp.acquireInputLease terminalId clientId leaseId))

def attachment (attachmentId : TerminalAttachmentId) : GatewayMethod (Option Attachment) :=
  Prog.perform (GatewayOp.attachment attachmentId)

def insert (attachmentId : TerminalAttachmentId) (a : Attachment) : GatewayMethod Unit :=
  Prog.perform (GatewayOp.insert attachmentId a)

end GatewayMethod

structure ActiveAttachment where
  attachmentId : TerminalAttachmentId
  connectionId : Uuid
  terminalId : TerminalId
  clientId : ClientId
  leaseId : InputLeaseId
  nextInputSequence : Nat
  resizeGeneration : Nat
  metadataRevision : Nat
  deriving DecidableEq

structure TerminalHello where
  sessionId : Nat
  attachmentId : Option TerminalAttachmentId
  size : TerminalSize
  cwd : Option String

/-- What one call gets from outside: the random ids, and how the PTY, the shell and the journal answer. -/
structure GatewayEnv where
  connectionId : Uuid
  attachmentId : TerminalAttachmentId
  terminalId : TerminalId
  clientId : ClientId
  leaseId : InputLeaseId
  resized : Except String Unit
  recorded : Except DaemonError Unit
  written : Except String Unit
  killed : Except String Unit
  spawned : ShellSpawn

section Methods

open GatewayMethod

def resizeTerminal (env : GatewayEnv) (terminalId : TerminalId) (generation : Nat) (size : TerminalSize) :
    GatewayMethod Unit := do
  resizeSession terminalId env.resized generation size
  let context ← terminalContext terminalId
  match context with
  | .operation _ _ => lift (env.recorded.mapError fun e => .daemon (.record e))
  | .userShell => pure ()

/-- A reconnection of an attachment that is there. -/
def reactivate (env : GatewayEnv) (hello : TerminalHello) (attachmentId : TerminalAttachmentId) (a : Attachment) :
    GatewayMethod ActiveAttachment := do
  ensure (a.sessionId = hello.sessionId) .attachmentSessionMismatch
  ensure (a.activeConnection = none) .attachmentBusy
  let nextResizeGeneration := a.resizeGeneration + 1
  resizeTerminal env a.terminalId nextResizeGeneration hello.size
  let (leaseId, _) ← acquireInputLease a.terminalId a.clientId env.leaseId
  insert attachmentId { a with
    resizeGeneration := nextResizeGeneration
    activeConnection := some env.connectionId }
  return {
    attachmentId := attachmentId
    connectionId := env.connectionId
    terminalId := a.terminalId
    clientId := a.clientId
    leaseId := leaseId
    nextInputSequence := a.nextInputSequence
    resizeGeneration := nextResizeGeneration
    metadataRevision := a.metadataRevision }

/-- A first connection, with a shell of its own. -/
def openAttachment (env : GatewayEnv) (hello : TerminalHello) : GatewayMethod ActiveAttachment := do
  let terminalId ← daemon (Prog.perform (GatewayOp.openUserShell env.terminalId hello.size env.spawned))
  let lease ← (Prog.perform (GatewayOp.acquireInputLease terminalId env.clientId env.leaseId) :
    GatewayMethod (Except TerminalRequestError (InputLeaseId × Nat)))
  match lease with
  | .error e => do
      let _ ← (Prog.perform (GatewayOp.closeTerminal terminalId env.killed) :
        GatewayMethod (Except TerminalRequestError Unit))
      Prog.fail (.daemon e)
  | .ok (leaseId, _) => do
      insert env.attachmentId {
        sessionId := hello.sessionId
        terminalId := terminalId
        clientId := env.clientId
        nextInputSequence := 1
        resizeGeneration := 0
        activeConnection := some env.connectionId
        metadataRevision := 0
        title := none
        cwd := none }
      return {
        attachmentId := env.attachmentId
        connectionId := env.connectionId
        terminalId := terminalId
        clientId := env.clientId
        leaseId := leaseId
        nextInputSequence := 1
        resizeGeneration := 0
        metadataRevision := 0 }

def activate (env : GatewayEnv) (hello : TerminalHello) : GatewayMethod ActiveAttachment := do
  lift ((TerminalSize.validate hello.size).mapError .invalidMessage)
  ensure (1 ≤ hello.sessionId ∧ hello.sessionId ≤ 999) (.invalidSessionId hello.sessionId)
  match hello.attachmentId with
  | none => openAttachment env hello
  | some attachmentId => do
      let found ← attachment attachmentId
      match found with
      | some a => reactivate env hello attachmentId a
      | none => openAttachment env hello

def connectedAttachment (active : ActiveAttachment) : GatewayMethod Attachment := do
  let found ← attachment active.attachmentId
  let a ← lift (okOr found .attachmentState)
  ensure (a.activeConnection = some active.connectionId ∧ a.terminalId = active.terminalId ∧
    a.clientId = active.clientId) .attachmentState
  return a

def validDisplayMetadata (value : Option String) (maximum : Nat) (absolutePath : Bool) : Bool :=
  match value with
  | none => true
  | some value => value ≠ "" && value.utf8ByteSize ≤ maximum && (!absolutePath || value.toList.head? = some '/') &&
      !value.toList.any fun c => c.toNat < 32 || (127 ≤ c.toNat && c.toNat < 160)

def acceptMetadata (active : ActiveAttachment) (revision : Nat) (title cwd : Option String) : GatewayMethod Unit := do
  ensure (revision ≠ 0 ∧ validDisplayMetadata title 256 false = true ∧ validDisplayMetadata cwd 512 true = true)
    .invalidMetadata
  let a ← connectedAttachment active
  if revision ≤ a.metadataRevision then pure ()
  else insert active.attachmentId { a with metadataRevision := revision, title, cwd }

def acceptInput (env : GatewayEnv) (active : ActiveAttachment) (sequence : Nat) (bytes : List UInt8) :
    GatewayMethod Unit := do
  let a ← connectedAttachment active
  ensure (sequence = a.nextInputSequence) (.inputSequence a.nextInputSequence sequence)
  daemon (Prog.perform (GatewayOp.writeTerminalInput active.clientId active.terminalId active.leaseId sequence bytes
    env.written))
  insert active.attachmentId { a with nextInputSequence := a.nextInputSequence + 1 }

def acceptResize (env : GatewayEnv) (active : ActiveAttachment) (generation : Nat) (size : TerminalSize) :
    GatewayMethod Unit := do
  let a ← connectedAttachment active
  let expected := a.resizeGeneration + 1
  ensure (generation = expected) (.resizeGeneration expected generation)
  resizeTerminal env active.terminalId generation size
  insert active.attachmentId { a with resizeGeneration := generation }

/-- The end of `close_attachment`, once the terminal is closed. -/
def removeAttachment (active : ActiveAttachment) : GatewayMethod Unit :=
  Prog.perform (GatewayOp.remove active.attachmentId)

def closeSession (env : GatewayEnv) (sessionId : Nat) (order : List TerminalAttachmentId) : GatewayMethod Unit := do
  let found ← (Prog.perform (GatewayOp.findSession sessionId order) :
    GatewayMethod (Option (TerminalAttachmentId × TerminalId)))
  match found with
  | none => pure ()
  | some (attachmentId, terminalId) => do
      let result ← (Prog.perform (GatewayOp.closeTerminal terminalId env.killed) :
        GatewayMethod (Except TerminalRequestError Unit))
      let _ ← (Prog.perform (GatewayOp.remove attachmentId) : GatewayMethod Unit)
      lift (result.mapError .daemon)

/-- The end of `deactivate`, once the lease is released. -/
def disconnect (active : ActiveAttachment) : GatewayMethod Unit := do
  let found ← attachment active.attachmentId
  match found with
  | some a =>
      if a.activeConnection = some active.connectionId then
        insert active.attachmentId { a with activeConnection := none }
      else pure ()
  | none => pure ()

def GatewayMethod.discard {α : Type} (m : GatewayMethod α) : GatewayMethod Unit := do
  let _ ← m

end Methods

/-! ## Runs -/

/-- What runs under the lock of the attachments. -/
inductive GatewayCall : GatewayMethod Unit → Prop
  | activate (env : GatewayEnv) (hello : TerminalHello) : GatewayCall (activate env hello).discard
  | acceptMetadata (active : ActiveAttachment) (revision : Nat) (title cwd : Option String) :
      GatewayCall (acceptMetadata active revision title cwd)
  | acceptInput (env : GatewayEnv) (active : ActiveAttachment) (sequence : Nat) (bytes : List UInt8) :
      GatewayCall (acceptInput env active sequence bytes)
  | acceptResize (env : GatewayEnv) (active : ActiveAttachment) (generation : Nat) (size : TerminalSize) :
      GatewayCall (acceptResize env active generation size)
  | removeAttachment (active : ActiveAttachment) : GatewayCall (removeAttachment active)
  | closeSession (env : GatewayEnv) (sessionId : Nat) (order : List TerminalAttachmentId) :
      GatewayCall (closeSession env sessionId order)
  | disconnect (active : ActiveAttachment) : GatewayCall (disconnect active)

/-- What happens without that lock. -/
inductive Unlocked : GatewayState → GatewayState → Prop
  | exited (s : GatewayState) (terminalId : TerminalId) (exit : TerminalExit) :
      Unlocked s (s.exited terminalId exit)
  | finalized (s : GatewayState) (terminalId : TerminalId) : Unlocked s (s.finalizeTerminal terminalId)
  | released (s : GatewayState) (terminalId : TerminalId) (leaseId : InputLeaseId) (clientId : ClientId) :
      Unlocked s (s.releaseInputLease terminalId leaseId clientId).1
  | closed (s : GatewayState) (terminalId : TerminalId) (killed : Except String Unit) :
      Unlocked s (s.closeTerminal terminalId killed).1

/-- A new terminal has a new id, and a search of the attachments sees them all. -/
def Possible : GatewayOp → GatewayState → Prop
  | .openUserShell terminalId _ _, s => s.sessions terminalId = none
  | .findSession _ order, s => ∀ id, s.attachments id ≠ none → id ∈ order
  | _, _ => True

/-- The daemon still knows the terminal whose context it looks up. -/
def StillKnown : GatewayOp → GatewayState → Prop
  | .terminalContext terminalId, s => s.contexts terminalId ≠ none
  | _, _ => True

abbrev GatewayRun (allowed : GatewayOp → GatewayState → Prop) (m : Monitor GatewayOp GatewayAns ConnectionError GatewayState) :
    Prop :=
  Relation.ReflTransGen (Monitor.Step execGateway GatewayCall Unlocked allowed) ⟨.start, none⟩ m

/-- Every attachment has counted what its session has counted. -/
def Lockstep (s : GatewayState) : Prop :=
  ∀ id a, s.attachments id = some a → ∃ session, s.sessions a.terminalId = some session ∧
    a.resizeGeneration = session.resizeGeneration ∧ a.nextInputSequence = session.lastInputSequence + 1

end HyperTerm.Daemon
