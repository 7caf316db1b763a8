import HyperTerm.Drivers.Agent
import HyperTerm.Drivers.Events
import HyperTerm.Lib.Keyed
import HyperTerm.Lib.Threads

/-!
# The pending requests of an ACP client

A provider asks its client for permissions and for work on the host. What is pending stands in two tables, each under a
lock of its own, and every answer is read, sent and removed in three steps.

* `AcpShared` : the tables, the lock of the client's requests, and what has happened so far;
* `permissionRequest`, `hostRequest` : a request comes in;
* `resolveEffect`, `resolveHostRequest`, `cancelTurn`, `completePrompt` : the methods;
* `AnsweredOnce` : what is asked of every state.

The environment decides whether a message can be written. It is a parameter of the program.
-/

namespace HyperTerm.Drivers
open HyperTerm.Protocol HyperTerm.Lib

/-! ## Requests -/

inductive PermissionOptionKind where
  | allowOnce
  | allowAlways
  | rejectOnce
  | rejectAlways
  deriving DecidableEq

structure PermissionOption where
  optionId : String
  kind : PermissionOptionKind
  deriving DecidableEq

inductive AgentHostOperation where
  | terminalCreate (command : String) (args : List String) (env : List (String × String)) (cwd : String)
      (outputByteLimit : Nat)
  | terminalOutput (terminalId : String)
  | terminalRelease (terminalId : String)
  | terminalWaitForExit (terminalId : String)
  | terminalKill (terminalId : String)
  deriving DecidableEq

structure PendingApproval where
  proposal : AgentEffectProposal
  options : List PermissionOption
  deriving DecidableEq

structure AgentHostRequest where
  method : String
  payloadSha256 : String
  threadId : String
  turnId : String
  operation : AgentHostOperation
  deriving DecidableEq

structure PendingPrompt where
  sessionId : String
  turnId : String

inductive RequestKind where
  | permission
  | host
  deriving DecidableEq

abbrev RequestBody : RequestKind → Type
  | .permission => PendingApproval
  | .host => AgentHostRequest

instance (kind : RequestKind) : DecidableEq (RequestBody kind) :=
  match kind with
  | .permission => inferInstanceAs (DecidableEq PendingApproval)
  | .host => inferInstanceAs (DecidableEq AgentHostRequest)

/-- A pending request. Requests are numbered in the order in which they were filed. -/
structure Pending (kind : RequestKind) where
  number : Nat
  requestId : ExternalRequestId
  body : RequestBody kind
  deriving DecidableEq

/-- `HostResponseValue`. -/
inductive HostResponseValue where
  | result (value : Value)
  | error (code : Int) (message : String)

inductive AcpAnswer where
  | selected (optionId : String)
  | cancelled
  | host (response : HostResponseValue)
  /-- The error -32800. -/
  | hostCancelled

inductive AcpError where
  | driver (error : ProcessError)
  | invalidMessage (message : String)
  | approvalOverflow
  | hostRequestOverflow
  | duplicateApproval
  | unknownApproval
  | duplicateHostRequest
  | unknownHostRequest
  | decisionUnavailable
  | promptAlreadyRunning
  | noActivePrompt
  | invalidAuthorization (message : String)

/-- `MAX_PENDING_APPROVALS` and `MAX_PENDING_HOST_REQUESTS`. -/
def maxPending : RequestKind → Nat
  | .permission => 128
  | .host => 128

namespace RequestKind

def overflow : RequestKind → AcpError
  | permission => .approvalOverflow
  | host => .hostRequestOverflow

def duplicate : RequestKind → AcpError
  | permission => .duplicateApproval
  | host => .duplicateHostRequest

def unknown : RequestKind → AcpError
  | permission => .unknownApproval
  | host => .unknownHostRequest

def other : RequestKind → RequestKind
  | permission => host
  | host => permission

/-- The answer of a cancellation. -/
def cancelled : RequestKind → AcpAnswer
  | permission => .cancelled
  | host => .hostCancelled

end RequestKind

/-! ## Operations -/

abbrev Table (kind : RequestKind) := Keyed (@Pending.requestId kind)

/-- The state of the client, and below it what has happened. -/
structure AcpShared where
  /-- `request_gate` is taken. -/
  gate : Bool
  pendingPrompt : Option PendingPrompt
  pending : (kind : RequestKind) → Table kind
  /-- The number of the next request. -/
  next : Nat
  /-- The requests that were filed. -/
  filed : List (Sigma Pending)
  answers : List (Nat × AcpAnswer)
  /-- Answered and not yet removed. -/
  answering : List Nat
  /-- A cancellation runs that has still to answer these. -/
  cancelling : (kind : RequestKind) → Option (List (Pending kind))
  /-- Requests that another was filed in place of. -/
  replaced : List Nat
  /-- Requests without an answer when `cancel_turn` had returned. -/
  missed : List Nat

def AcpShared.start : AcpShared where
  gate := false
  pendingPrompt := none
  pending _ := .empty
  next := 0
  filed := []
  answers := []
  answering := []
  cancelling _ := none
  replaced := []
  missed := []

inductive Insertion where
  | full
  | replaced
  | inserted

inductive AcpOp where
  | lockGate
  /-- `cancel_turn` returns. -/
  | releaseGate (ok : Bool)
  | readPrompt
  | startPrompt (prompt : PendingPrompt) (started : Except AcpError Unit)
  | takePrompt
  | contains (kind : RequestKind) (requestId : ExternalRequestId)
  | insert (kind : RequestKind) (requestId : ExternalRequestId) (body : RequestBody kind)
  | read (kind : RequestKind) (requestId : ExternalRequestId)
  | remove (kind : RequestKind) (requestId : ExternalRequestId)
  /-- The identifiers, and which requests they stand for. -/
  | copy (kind : RequestKind)
  | clear (kind : RequestKind)
  | sendAnswer (kind : RequestKind) (request : Pending kind) (answer : AcpAnswer) (sent : Except ProcessError Unit)
  | sendCancelled (kind : RequestKind) (request : Pending kind) (sent : Except ProcessError Unit)
  | sendConsent (optionId : String) (sent : Except ProcessError Unit)
  | sendNotification (sent : Except ProcessError Unit)

abbrev AcpAns : AcpOp → Type
  | .readPrompt | .takePrompt => Option PendingPrompt
  | .startPrompt _ _ => Except AcpError Unit
  | .contains _ _ => Bool
  | .insert _ _ _ => Insertion
  | .read kind _ => Option (Pending kind)
  | .copy kind => List (Pending kind)
  | .sendAnswer _ _ _ _ | .sendCancelled _ _ _ | .sendConsent _ _ | .sendNotification _ => Except ProcessError Unit
  | _ => Unit

namespace AcpShared

def setPending (s : AcpShared) (kind : RequestKind) (table : Table kind) : AcpShared :=
  { s with pending := Function.update s.pending kind table }

def Answered (s : AcpShared) (number : Nat) : Prop := number ∈ s.answers.map Prod.fst

instance (s : AcpShared) (number : Nat) : Decidable (s.Answered number) :=
  inferInstanceAs (Decidable (number ∈ s.answers.map Prod.fst))

def insert (s : AcpShared) (kind : RequestKind) (requestId : ExternalRequestId) (body : RequestBody kind) :
    AcpShared × Insertion :=
  let request : Pending kind := { number := s.next, requestId, body }
  if (s.pending kind).values.length = maxPending kind then (s, .full)
  else
    let s' := { s.setPending kind ((s.pending kind).put request) with
      next := s.next + 1
      filed := ⟨kind, request⟩ :: s.filed }
    match (s.pending kind).get? requestId with
    | some old => ({ s' with replaced := old.number :: s.replaced }, .replaced)
    | none => (s', .inserted)

def remove (s : AcpShared) (kind : RequestKind) (requestId : ExternalRequestId) : AcpShared :=
  let s' := s.setPending kind ((s.pending kind).erase requestId)
  match (s.pending kind).get? requestId with
  | some request => { s' with answering := s.answering.erase request.number }
  | none => s'

def copy (s : AcpShared) (kind : RequestKind) : AcpShared :=
  { s with cancelling := Function.update s.cancelling kind (some (s.pending kind).values) }

def clear (s : AcpShared) (kind : RequestKind) : AcpShared :=
  let numbers := (s.pending kind).values.map Pending.number
  { s.setPending kind .empty with answering := s.answering.filter fun number => number ∉ numbers }

def sendAnswer (s : AcpShared) (number : Nat) (answer : AcpAnswer) : AcpShared :=
  { s with answers := (number, answer) :: s.answers, answering := number :: s.answering }

def sendCancelled (s : AcpShared) (kind : RequestKind) (request : Pending kind) : AcpShared :=
  { s.sendAnswer request.number kind.cancelled with
    cancelling := Function.update s.cancelling kind ((s.cancelling kind).map List.tail) }

def releaseGate (s : AcpShared) (ok : Bool) : AcpShared :=
  let unanswered := (s.filed.map fun request => request.2.number).filter fun number => ¬s.Answered number
  { s with gate := false, cancelling := fun _ => none, missed := if ok then unanswered ++ s.missed else s.missed }

end AcpShared

def execAcp : (op : AcpOp) → AcpShared → AcpShared × AcpAns op
  | .lockGate, s => ({ s with gate := true }, ())
  | .releaseGate ok, s => (s.releaseGate ok, ())
  | .readPrompt, s => (s, s.pendingPrompt)
  | .startPrompt prompt started, s =>
      if s.pendingPrompt.isSome then (s, .error .promptAlreadyRunning)
      else
        match started with
        | .error e => (s, .error e)
        | .ok () => ({ s with pendingPrompt := some prompt }, .ok ())
  | .takePrompt, s => ({ s with pendingPrompt := none }, s.pendingPrompt)
  | .contains kind requestId, s => (s, ((s.pending kind).get? requestId).isSome)
  | .insert kind requestId body, s => s.insert kind requestId body
  | .read kind requestId, s => (s, (s.pending kind).get? requestId)
  | .remove kind requestId, s => (s.remove kind requestId, ())
  | .copy kind, s => (s.copy kind, (s.pending kind).values)
  | .clear kind, s => (s.clear kind, ())
  | .sendAnswer _ _ _ (.error e), s => (s, .error e)
  | .sendAnswer _ request answer (.ok ()), s => (s.sendAnswer request.number answer, .ok ())
  | .sendCancelled _ _ (.error e), s => (s, .error e)
  | .sendCancelled kind request (.ok ()), s => (s.sendCancelled kind request, .ok ())
  | .sendConsent _ (.error e), s => (s, .error e)
  | .sendConsent optionId (.ok ()), s =>
      ({ s with next := s.next + 1, answers := (s.next, .selected optionId) :: s.answers }, .ok ())
  | .sendNotification sent, s => (s, sent)

/-! ## Methods -/

abbrev AcpProg (α : Type) := Prog AcpOp AcpAns AcpError α

def acp (op : AcpOp) : AcpProg (AcpAns op) := Prog.perform op

def orDriverError : Except ProcessError Unit → AcpProg Unit
  | .ok () => pure ()
  | .error e => Prog.fail (.driver e)

def boundedText (value : String) (maximum : Nat) : Except AcpError String :=
  if maximum < value.utf8ByteSize then .error (.invalidMessage ("text exceeds " ++ toString maximum ++ " bytes"))
  else .ok value

/-- A request is filed if its identifier is in neither table. -/
def fileRequest (kind : RequestKind) (requestId : ExternalRequestId) (body : RequestBody kind) : AcpProg Unit := do
  match (← acp (.insert kind requestId body) : Insertion) with
  | .full => Prog.fail kind.overflow
  | .replaced => Prog.fail kind.duplicate
  | .inserted => pure ()

/-- `normalize_permission_request`. `consent` is the option of a brokered call and whether it could be sent; `normalized`
is the outcome of `normalize_permission`. -/
def permissionRequest (requestId : ExternalRequestId) (consent : Option (String × Except ProcessError Unit))
    (normalized : Option PendingPrompt → Except AcpError PendingApproval) : AcpProg Unit := do
  match consent with
  | some (optionId, sent) => do
      let sent ← acp (.sendConsent optionId sent)
      orDriverError sent
  | none => do
      let prompt ← acp .readPrompt
      let body ← Prog.ret (normalized prompt)
      if ← acp (.contains .host requestId) then Prog.fail .duplicateHostRequest
      else fileRequest .permission requestId body

/-- `normalize_host_request`. -/
def hostRequest (requestId : ExternalRequestId) (normalized : PendingPrompt → Except AcpError AgentHostRequest) :
    AcpProg Unit := do
  if ← acp (.contains .permission requestId) then Prog.fail .duplicateApproval
  else do
    match (← acp .readPrompt : Option PendingPrompt) with
    | none => Prog.fail (.invalidMessage "ACP host request arrived outside a turn")
    | some prompt => do
        let body ← Prog.ret (normalized prompt)
        fileRequest .host requestId body

/-- The answer to a request: read, sent and removed. -/
def resolve (kind : RequestKind) (requestId : ExternalRequestId) (answer : RequestBody kind → Except AcpError AcpAnswer)
    (sent : Except ProcessError Unit) : AcpProg Unit := do
  match (← acp (.read kind requestId) : Option (Pending kind)) with
  | none => Prog.fail kind.unknown
  | some request => do
      let answer ← Prog.ret (answer request.body)
      let sent ← acp (.sendAnswer kind request answer sent)
      orDriverError sent
      acp (.remove kind requestId)

def selectOption (options : List PermissionOption) (wanted : PermissionOptionKind) : Except AcpError AcpAnswer :=
  match options.find? fun option => option.kind = wanted with
  | some option => .ok (.selected option.optionId)
  | none => .error .decisionUnavailable

def permissionAnswer (authorization : AgentEffectAuthorization) (approval : PendingApproval) :
    Except AcpError AcpAnswer :=
  if authorization.proposalSha256 ≠ approval.proposal.payloadSha256 then
    .error (.invalidAuthorization "proposal digest does not match the pending request")
  else
    match authorization.decision with
    | .cancelled => .ok .cancelled
    | .allowOnce => selectOption approval.options .allowOnce
    | .rejectOnce => selectOption approval.options .rejectOnce
    | .allowAlways | .rejectAlways =>
        .error (.invalidAuthorization "persistent policy decisions are not wire-level approvals")

def resolveEffect (requestId : ExternalRequestId) (authorization : AgentEffectAuthorization)
    (sent : Except ProcessError Unit) : AcpProg Unit :=
  if authorization.operationRevision = 0 then
    Prog.fail (.invalidAuthorization "operation revision must be positive")
  else resolve .permission requestId (permissionAnswer authorization) sent

/-- `wire` is what `host_response_value` makes of the response. -/
def resolveHostRequest (requestId : ExternalRequestId)
    (wire : AgentHostOperation → Except AcpError HostResponseValue) (sent : Except ProcessError Unit) : AcpProg Unit :=
  resolve .host requestId (fun request => (wire request.operation).map .host) sent

def sendCancelled (kind : RequestKind) (sends : Nat → Except ProcessError Unit) : List (Pending kind) → AcpProg Unit
  | [] => pure ()
  | request :: requests => do
      let sent ← acp (.sendCancelled kind request (sends request.number))
      orDriverError sent
      sendCancelled kind sends requests

/-- All pending requests of a kind are answered and removed. -/
def cancelAll (kind : RequestKind) (sends : Nat → Except ProcessError Unit) : AcpProg Unit := do
  let requests ← acp (.copy kind)
  sendCancelled kind sends requests
  acp (.clear kind)

def cancelLocked (sessionId : String) (sends : Nat → Except ProcessError Unit) (notified : Except ProcessError Unit) :
    AcpProg Unit := do
  match (← acp .readPrompt : Option PendingPrompt) with
  | none => Prog.fail .noActivePrompt
  | some prompt =>
      if prompt.sessionId ≠ sessionId then Prog.fail .noActivePrompt
      else do
        cancelAll .permission sends
        cancelAll .host sends
        let sent ← acp (.sendNotification notified)
        orDriverError sent

def cancelTurn (sessionId : String) (sends : Nat → Except ProcessError Unit) (notified : Except ProcessError Unit) :
    AcpProg Unit := do
  let sessionId ← Prog.ret (boundedText sessionId 4096)
  acp .lockGate
  match ← (cancelLocked sessionId sends notified).attempt with
  | .ok () => acp (.releaseGate true)
  | .error e => do
      acp (.releaseGate false)
      Prog.fail e

/-- `start_turn`, which has both locks from its check to its end. -/
def startTurn (prompt : PendingPrompt) (started : Except AcpError Unit) : AcpProg Unit := do
  let started ← acp (.startPrompt prompt started)
  Prog.ret started

/-- The turn is over. -/
def completePrompt : AcpProg Unit := do
  match (← acp .takePrompt : Option PendingPrompt) with
  | none => Prog.fail (.invalidMessage "ACP prompt response is stale")
  | some _ => pure ()

/-! ## Runs -/

inductive AcpCall where
  | permissionRequest (requestId : ExternalRequestId) (consent : Option (String × Except ProcessError Unit))
      (normalized : Option PendingPrompt → Except AcpError PendingApproval)
  | hostRequest (requestId : ExternalRequestId) (normalized : PendingPrompt → Except AcpError AgentHostRequest)
  | resolveEffect (requestId : ExternalRequestId) (authorization : AgentEffectAuthorization)
      (sent : Except ProcessError Unit)
  | resolveHostRequest (requestId : ExternalRequestId)
      (wire : AgentHostOperation → Except AcpError HostResponseValue) (sent : Except ProcessError Unit)
  | cancelTurn (sessionId : String) (sends : Nat → Except ProcessError Unit) (notified : Except ProcessError Unit)
  | startTurn (prompt : PendingPrompt) (started : Except AcpError Unit)
  | completePrompt

def AcpCall.program : AcpCall → AcpProg Unit
  | permissionRequest requestId consent normalized => Drivers.permissionRequest requestId consent normalized
  | hostRequest requestId normalized => Drivers.hostRequest requestId normalized
  | resolveEffect requestId authorization sent => Drivers.resolveEffect requestId authorization sent
  | resolveHostRequest requestId wire sent => Drivers.resolveHostRequest requestId wire sent
  | cancelTurn sessionId sends notified => Drivers.cancelTurn sessionId sends notified
  | startTurn prompt started => Drivers.startTurn prompt started
  | completePrompt => Drivers.completePrompt

/-- A call at any time. -/
inductive AcpStarts : AcpShared → AcpProg Unit → AcpShared → Prop
  | call (s : AcpShared) (call : AcpCall) : AcpStarts s call.program s

/-- Taking the gate waits until it is free. -/
def AcpEnabled : AcpOp → AcpShared → Prop
  | .lockGate, s => s.gate = false
  | .startPrompt _ _, s => s.gate = false
  | _, _ => True

abbrev AcpPool := Pool AcpOp AcpAns AcpError AcpShared

/-- What is asked: no request is answered twice or replaced, and none is without an answer when `cancel_turn` has
returned. -/
structure AnsweredOnce (s : AcpShared) : Prop where
  once : (s.answers.map Prod.fst).Nodup
  cancelled : ∀ number answer, (number, AcpAnswer.cancelled) ∈ s.answers → (number, answer) ∈ s.answers →
    answer = .cancelled
  kept : s.replaced = []
  answered : s.missed = []

/-! ## The condition -/

/-- An answer is sent for a request that is still pending, while no other call is between its answer and its removal
and no cancellation runs. A cancellation does not copy a request that is being answered. A request is filed while no
cancellation runs and none of its kind is pending under its identifier. -/
def AcpCondition : AcpOp → AcpShared → Prop
  | .sendAnswer kind request _ (.ok _), s =>
      s.cancelling kind = none ∧ (s.pending kind).get? request.requestId = some request ∧ request.number ∉ s.answering
  | .copy kind, s => ∀ request ∈ (s.pending kind).values, request.number ∉ s.answering
  | .insert kind requestId _, s =>
      (s.pending kind).values.length = maxPending kind ∨
        s.cancelling kind = none ∧ (s.pending kind).get? requestId = none
  | _, _ => True

def AcpAllowed (op : AcpOp) (s : AcpShared) : Prop := AcpEnabled op s ∧ AcpCondition op s

instance (op : AcpOp) (s : AcpShared) : Decidable (AcpEnabled op s) :=
  match op with
  | .lockGate | .startPrompt _ _ => inferInstanceAs (Decidable (s.gate = false))
  | .releaseGate _ | .readPrompt | .takePrompt | .contains _ _ | .insert _ _ _ | .read _ _ | .remove _ _ | .copy _
  | .clear _ | .sendAnswer _ _ _ _ | .sendCancelled _ _ _ | .sendConsent _ _ | .sendNotification _ => isTrue trivial

instance (op : AcpOp) (s : AcpShared) : Decidable (AcpCondition op s) :=
  match op with
  | .sendAnswer kind request _ (.ok _) =>
      inferInstanceAs (Decidable (s.cancelling kind = none ∧ (s.pending kind).get? request.requestId = some request ∧
        request.number ∉ s.answering))
  | .copy kind => inferInstanceAs (Decidable (∀ request ∈ (s.pending kind).values, request.number ∉ s.answering))
  | .insert kind requestId _ =>
      inferInstanceAs (Decidable (_ ∨ s.cancelling kind = none ∧ (s.pending kind).get? requestId = none))
  | .sendAnswer _ _ _ (.error _) | .lockGate | .startPrompt _ _ | .releaseGate _ | .readPrompt | .takePrompt
  | .contains _ _ | .read _ _ | .remove _ _ | .clear _ | .sendCancelled _ _ _ | .sendConsent _ _
  | .sendNotification _ => isTrue trivial

instance (op : AcpOp) (s : AcpShared) : Decidable (AcpAllowed op s) :=
  inferInstanceAs (Decidable (AcpEnabled op s ∧ AcpCondition op s))

end HyperTerm.Drivers
