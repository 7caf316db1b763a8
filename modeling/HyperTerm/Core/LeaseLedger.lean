import HyperTerm.Lib.InPlace
import HyperTerm.Lib.Keyed
import HyperTerm.Lib.Result
import HyperTerm.Protocol.Sandbox

/-!
# The ledger of capability leases

`CapabilityLeaseLedger` keeps every execution-capability lease it has issued, with the time at which it was consumed.
`issue` and `consume` only look until every check has passed, so a failed call changes nothing.

`LedgerChronicle` is what the ledger and the successful calls of a history say of each other: an entry is what was
issued, once, and it is consumed if and only if a call consumed it, once.
-/

namespace HyperTerm.Core
open HyperTerm.Protocol HyperTerm.Lib

structure CapabilityLease where
  leaseId : SandboxLeaseId
  operationId : OperationId
  operationRevision : Nat
  actionDigest : String
  profileDigest : String
  actor : Actor
  issuedAtMs : Nat
  expiresAtMs : Nat
  oneUse : Bool
  deriving DecidableEq

structure ExecutionCapabilityLease where
  contextDigest : String
  lease : CapabilityLease
  deriving DecidableEq

structure SandboxLeaseExpectation where
  operationId : OperationId
  operationRevision : Nat
  contextDigest : String
  actionDigest : String
  profileDigest : String
  actor : Actor
  deriving DecidableEq

inductive SandboxLeaseError where
  | zeroRevision
  | invalidLifetime
  | reusableLeaseForbidden
  | alreadyExists (leaseId : SandboxLeaseId)
  | notFound (leaseId : SandboxLeaseId)
  | alreadyConsumed (leaseId : SandboxLeaseId)
  | notYetValid
  | expired
  | operationMismatch
  | revisionMismatch (expected actual : Nat)
  | contextDigestMismatch
  | actionDigestMismatch
  | profileDigestMismatch
  | actorMismatch
  deriving DecidableEq

structure LeaseEntry where
  lease : ExecutionCapabilityLease
  consumedAtMs : Option Nat
  deriving DecidableEq

def LeaseEntry.leaseId (entry : LeaseEntry) : SandboxLeaseId := entry.lease.lease.leaseId

structure CapabilityLeaseLedger where
  leases : Keyed LeaseEntry.leaseId

namespace CapabilityLeaseLedger

/-- `CapabilityLeaseLedger::default`. -/
def new : CapabilityLeaseLedger := ⟨Keyed.empty⟩

def get (ledger : CapabilityLeaseLedger) (leaseId : SandboxLeaseId) : Option LeaseEntry := ledger.leases.get? leaseId

def put (ledger : CapabilityLeaseLedger) (entry : LeaseEntry) : CapabilityLeaseLedger := ⟨ledger.leases.put entry⟩

abbrev Leasing := InPlace CapabilityLeaseLedger SandboxLeaseError

def issue (lease : ExecutionCapabilityLease) : Leasing Unit := do
  let capability := lease.lease
  InPlace.refuseIf (capability.operationRevision = 0) .zeroRevision
  InPlace.refuseIf (capability.expiresAtMs ≤ capability.issuedAtMs) .invalidLifetime
  InPlace.refuseIf (capability.oneUse = false) .reusableLeaseForbidden
  InPlace.refuseIf ((← InPlace.self).get capability.leaseId).isSome (.alreadyExists capability.leaseId)
  modify fun ledger => ledger.put ⟨lease, none⟩

def consume (leaseId : SandboxLeaseId) (expected : SandboxLeaseExpectation) (nowMs : Nat) :
    Leasing ExecutionCapabilityLease := do
  let entry ← InPlace.ofExcept (okOr ((← InPlace.self).get leaseId) (.notFound leaseId))
  InPlace.refuseIf entry.consumedAtMs.isSome (.alreadyConsumed leaseId)
  let capability := entry.lease.lease
  InPlace.refuseIf (nowMs < capability.issuedAtMs) .notYetValid
  InPlace.refuseIf (nowMs ≥ capability.expiresAtMs) .expired
  InPlace.refuseIf (capability.operationId ≠ expected.operationId) .operationMismatch
  InPlace.refuseIf (capability.operationRevision ≠ expected.operationRevision)
    (.revisionMismatch capability.operationRevision expected.operationRevision)
  InPlace.refuseIf (entry.lease.contextDigest ≠ expected.contextDigest) .contextDigestMismatch
  InPlace.refuseIf (capability.actionDigest ≠ expected.actionDigest) .actionDigestMismatch
  InPlace.refuseIf (capability.profileDigest ≠ expected.profileDigest) .profileDigestMismatch
  InPlace.refuseIf (capability.actor ≠ expected.actor) .actorMismatch
  modify fun ledger => ledger.put { entry with consumedAtMs := some nowMs }
  return entry.lease

def isConsumed (ledger : CapabilityLeaseLedger) (leaseId : SandboxLeaseId) : Option Bool :=
  (ledger.get leaseId).map fun entry => entry.consumedAtMs.isSome

/-! ## What a call does -/

variable {ledger ledger' : CapabilityLeaseLedger} {lease : ExecutionCapabilityLease} {entry : LeaseEntry}
  {leaseId : SandboxLeaseId} {expected : SandboxLeaseExpectation} {nowMs : Nat}

theorem get_put (ledger : CapabilityLeaseLedger) (entry : LeaseEntry) (leaseId : SandboxLeaseId) :
    (ledger.put entry).get leaseId = if leaseId = entry.leaseId then some entry else ledger.get leaseId :=
  ledger.leases.get?_put entry leaseId

theorem leaseId_eq_of_get (h : ledger.get leaseId = some entry) : entry.leaseId = leaseId := Keyed.key_eq_of_get? h

theorem call_issue {u : Unit} : (issue lease).call ledger = (.ok u, ledger') ↔
    (lease.lease.operationRevision ≠ 0 ∧ lease.lease.issuedAtMs < lease.lease.expiresAtMs ∧ lease.lease.oneUse = true ∧
      ledger.get lease.lease.leaseId = none) ∧ ledger' = ledger.put ⟨lease, none⟩ := by
  unfold issue
  simp only [InPlace.refuseIf_bind_eq_ok, InPlace.self_bind_eq_ok, InPlace.call_modify, Prod.mk.injEq, true_and,
    Bool.not_eq_true, Option.isSome_eq_false_iff, Option.isNone_iff_eq_none, not_le, Bool.not_eq_false, and_assoc]
  tauto

/-- The expectation that meets the lease. -/
def expectation (lease : ExecutionCapabilityLease) : SandboxLeaseExpectation where
  operationId := lease.lease.operationId
  operationRevision := lease.lease.operationRevision
  contextDigest := lease.contextDigest
  actionDigest := lease.lease.actionDigest
  profileDigest := lease.lease.profileDigest
  actor := lease.lease.actor

theorem call_consume : (consume leaseId expected nowMs).call ledger = (.ok lease, ledger') ↔
    ∃ entry, ledger.get leaseId = some entry ∧ entry.lease = lease ∧ entry.consumedAtMs = none ∧
      lease.lease.issuedAtMs ≤ nowMs ∧ nowMs < lease.lease.expiresAtMs ∧ expected = expectation lease ∧
        ledger' = ledger.put { entry with consumedAtMs := some nowMs } := by
  unfold consume
  simp only [InPlace.self_bind_eq_ok, InPlace.ofExcept_bind_eq_ok, okOr_eq_ok, InPlace.refuseIf_bind_eq_ok, not_not,
    not_lt, ge_iff_le, not_le]
  constructor
  · rintro ⟨entry, hget, hconsumed, hfrom, huntil, hoperation, hrevision, hcontext, haction, hprofile, hactor, hend⟩
    obtain ⟨hlease, hledger⟩ := Prod.mk.inj hend
    obtain rfl := Except.ok.inj hlease
    refine ⟨entry, hget, rfl, by simpa using hconsumed, hfrom, huntil, ?_, hledger.symm⟩
    unfold expectation
    rw [hoperation, hrevision, hcontext, haction, hprofile, hactor]
  · rintro ⟨entry, hget, hlease, hconsumed, hfrom, huntil, hexpected, hledger⟩
    subst hlease hexpected hledger
    exact ⟨entry, hget, by simp [hconsumed], hfrom, huntil, rfl, rfl, rfl, rfl, rfl, rfl, rfl⟩

/-- Every check of `issue` comes before the ledger is written to. -/
theorem clean_issue (lease : ExecutionCapabilityLease) : InPlace.Clean (issue lease) := by
  unfold issue
  refine (InPlace.reads_refuseIf _ _).bind fun _ => (InPlace.reads_refuseIf _ _).bind fun _ =>
    (InPlace.reads_refuseIf _ _).bind fun _ => InPlace.reads_self.bind fun _ =>
      (InPlace.reads_refuseIf _ _).bind fun _ => ?_
  exact InPlace.clean_modify _

/-- Every check of `consume` comes before the entry is marked. -/
theorem clean_consume (leaseId : SandboxLeaseId) (expected : SandboxLeaseExpectation) (nowMs : Nat) :
    InPlace.Clean (consume leaseId expected nowMs) := by
  unfold consume
  refine InPlace.reads_self.bind fun _ => (InPlace.reads_ofExcept _).bind fun entry => ?_
  iterate 9 refine (InPlace.reads_refuseIf _ _).bind fun _ => ?_
  exact (InPlace.clean_modify _).bind fun _ _ _ h => nomatch h

/-! ## Histories -/

end CapabilityLeaseLedger

inductive LedgerCall where
  | issue (lease : ExecutionCapabilityLease)
  | consume (leaseId : SandboxLeaseId) (expected : SandboxLeaseExpectation) (nowMs : Nat)

namespace LedgerCall

open CapabilityLeaseLedger (Leasing)

def method : LedgerCall → Leasing (Option ExecutionCapabilityLease)
  | issue lease => do
      CapabilityLeaseLedger.issue lease
      return none
  | consume leaseId expected nowMs => do
      return some (← CapabilityLeaseLedger.consume leaseId expected nowMs)

theorem clean_method (c : LedgerCall) : InPlace.Clean c.method := by
  cases c with
  | issue lease => exact (CapabilityLeaseLedger.clean_issue lease).bind fun _ _ _ h => nomatch h
  | consume leaseId expected nowMs =>
      exact (CapabilityLeaseLedger.clean_consume leaseId expected nowMs).bind fun _ _ _ h => nomatch h

/-- The call consumes the lease. -/
def consumes (id : SandboxLeaseId) : LedgerCall → Bool
  | consume leaseId _ _ => leaseId = id
  | issue _ => false

end LedgerCall

namespace CapabilityLeaseLedger

/-- The ledger after the calls, whichever of them failed. -/
def after (calls : List LedgerCall) : CapabilityLeaseLedger := InPlace.leaves LedgerCall.method new calls

/-- The calls that succeeded. -/
def succeeded (calls : List LedgerCall) : List LedgerCall :=
  (InPlace.successes LedgerCall.method new calls).map Prod.fst

theorem after_concat (calls : List LedgerCall) (c : LedgerCall) :
    after (calls ++ [c]) = (c.method.call (after calls)).2 := InPlace.leaves_append _ _ _ _

/-- What a successful call does to the ledger. -/
inductive Change (ledger : CapabilityLeaseLedger) : LedgerCall → CapabilityLeaseLedger → Prop
  | issued (lease : ExecutionCapabilityLease) (hfresh : ledger.get lease.lease.leaseId = none) :
      Change ledger (.issue lease) (ledger.put ⟨lease, none⟩)
  | consumed (entry : LeaseEntry) (nowMs : Nat) (hget : ledger.get entry.leaseId = some entry)
      (hconsumed : entry.consumedAtMs = none) :
      Change ledger (.consume entry.leaseId (expectation entry.lease) nowMs)
        (ledger.put { entry with consumedAtMs := some nowMs })

theorem change {c : LedgerCall} {result : Option ExecutionCapabilityLease}
    (h : c.method.call ledger = (.ok result, ledger')) : Change ledger c ledger' := by
  cases c with
  | issue lease =>
      obtain ⟨u, t, hissue, hend⟩ := InPlace.call_bind_eq_ok.mp h
      obtain rfl : t = ledger' := congrArg Prod.snd hend
      obtain ⟨⟨-, -, -, hfresh⟩, rfl⟩ := call_issue.mp hissue
      exact .issued lease hfresh
  | consume leaseId expected nowMs =>
      obtain ⟨lease, t, hconsume, hend⟩ := InPlace.call_bind_eq_ok.mp h
      obtain rfl : t = ledger' := congrArg Prod.snd hend
      obtain ⟨entry, hget, rfl, hnone, -, -, rfl, rfl⟩ := call_consume.mp hconsume
      obtain rfl := leaseId_eq_of_get hget
      exact .consumed entry nowMs hget hnone

/-- What the successful calls and an entry of the ledger say of each other. -/
structure EntryChronicle (done : List LedgerCall) (id : SandboxLeaseId) (entry : LeaseEntry) : Prop where
  issued : .issue entry.lease ∈ done
  consumed : done.countP (LedgerCall.consumes id) = if entry.consumedAtMs.isSome then 1 else 0

structure LedgerChronicle (done : List LedgerCall) (ledger : CapabilityLeaseLedger) : Prop where
  entry : ∀ id entry, ledger.get id = some entry → EntryChronicle done id entry
  unknown : ∀ id, ledger.get id = none → done.countP (LedgerCall.consumes id) = 0

theorem chronicle_new : LedgerChronicle [] new where
  entry _ _ h := nomatch h
  unknown _ _ := rfl

theorem countP_consumes (id : SandboxLeaseId) (done : List LedgerCall) (c : LedgerCall) :
    (done ++ [c]).countP (LedgerCall.consumes id) =
      done.countP (LedgerCall.consumes id) + if LedgerCall.consumes id c then 1 else 0 := by
  rw [List.countP_append, List.countP_singleton]

/-- A successful call keeps the chronicle. -/
theorem Change.chronicle {done : List LedgerCall} {c : LedgerCall} (hchange : Change ledger c ledger')
    (h : LedgerChronicle done ledger) : LedgerChronicle (done ++ [c]) ledger' := by
  -- an entry is replaced, and the call consumes no other lease
  have hput {entry : LeaseEntry} (hledger : ledger' = ledger.put entry)
      (hentry : EntryChronicle (done ++ [c]) entry.leaseId entry)
      (hother : ∀ id, id ≠ entry.leaseId → LedgerCall.consumes id c = false) : LedgerChronicle (done ++ [c]) ledger' := by
    refine ⟨fun id entry' hget => ?_, fun id hget => ?_⟩
    all_goals
      rw [hledger, get_put] at hget
      split_ifs at hget with hid
    · obtain rfl := Option.some.inj hget
      exact hid ▸ hentry
    · have hold := h.entry id entry' hget
      refine ⟨List.mem_append_left _ hold.issued, ?_⟩
      rw [countP_consumes, hother id hid, hold.consumed]
      rfl
    · rw [countP_consumes, hother id hid, h.unknown id hget]
      rfl
  cases hchange with
  | issued lease hfresh =>
      refine hput rfl ⟨List.mem_append_right _ (List.mem_singleton_self _), ?_⟩ fun _ _ => rfl
      rw [countP_consumes]
      exact h.unknown _ hfresh
  | consumed entry nowMs hget hnone =>
      have hold := h.entry _ _ hget
      refine hput rfl ⟨List.mem_append_left _ hold.issued, ?_⟩ fun id hne => decide_eq_false fun heq => hne heq.symm
      show (done ++ [_]).countP (LedgerCall.consumes entry.leaseId) = 1
      rw [countP_consumes, hold.consumed, hnone]
      simp [LedgerCall.consumes]

theorem chronicle_after (calls : List LedgerCall) : LedgerChronicle (succeeded calls) (after calls) :=
  InPlace.history (P := fun done ledger => LedgerChronicle (done.map Prod.fst) ledger) LedgerCall.clean_method
    chronicle_new (fun _ _ _ _ _ h hcall => by
      rw [List.map_append]
      exact (change hcall).chronicle h) calls

/-! ## Consumed for good -/

/-- A call leaves a consumed entry as it is. -/
theorem get_concat (calls : List LedgerCall) (c : LedgerCall) (hget : (after calls).get leaseId = some entry)
    (hconsumed : entry.consumedAtMs.isSome) : (after (calls ++ [c])).get leaseId = some entry := by
  rw [after_concat]
  obtain ⟨result, ledger', hcall⟩ : ∃ result ledger', c.method.call (after calls) = (result, ledger') := ⟨_, _, rfl⟩
  rw [hcall]
  cases result with
  | error e =>
      have hsame := LedgerCall.clean_method c (after calls) e (by rw [hcall])
      rw [hcall] at hsame
      exact hsame ▸ hget
  | ok result =>
      show ledger'.get leaseId = some entry
      cases change hcall with
      | issued lease hfresh =>
          rw [get_put, if_neg]
          · exact hget
          · intro hid
            rw [hid, show LeaseEntry.leaseId ⟨lease, none⟩ = lease.lease.leaseId from rfl, hfresh] at hget
            exact nomatch hget
      | consumed other nowMs hother hnone =>
          rw [get_put, if_neg]
          · exact hget
          · intro hid
            rw [hid, show LeaseEntry.leaseId { other with consumedAtMs := some nowMs } = other.leaseId from rfl,
              hother] at hget
            rw [← Option.some.inj hget, hnone] at hconsumed
            exact nomatch hconsumed

theorem get_append (calls later : List LedgerCall) (hget : (after calls).get leaseId = some entry)
    (hconsumed : entry.consumedAtMs.isSome) : (after (calls ++ later)).get leaseId = some entry := by
  induction later generalizing calls with
  | nil => exact (List.append_nil calls).symm ▸ hget
  | cons c later ih =>
      have hlater := ih (calls ++ [c]) (get_concat calls c hget hconsumed)
      rwa [List.append_assoc] at hlater

/-- What the ledger promises after a history of calls, successful or not. -/
structure LedgerHistory (calls : List LedgerCall) : Prop where
  failed : ∀ c error, (c.method.call (after calls)).1 = .error error → after (calls ++ [c]) = after calls
  once : ∀ leaseId, (succeeded calls).countP (LedgerCall.consumes leaseId) ≤ 1
  -- what a call consumes was issued under that id, is valid at the time, meets the expectation and was not consumed
  consumed : ∀ leaseId expected nowMs lease ledger',
    (consume leaseId expected nowMs).call (after calls) = (.ok lease, ledger') →
      .issue lease ∈ succeeded calls ∧ lease.lease.leaseId = leaseId ∧
        lease.lease.issuedAtMs ≤ nowMs ∧ nowMs < lease.lease.expiresAtMs ∧ expected = expectation lease ∧
          (after calls).isConsumed leaseId = some false ∧ ledger'.isConsumed leaseId = some true
  final : ∀ leaseId entry later, (after calls).get leaseId = some entry → entry.consumedAtMs.isSome →
    (after (calls ++ later)).get leaseId = some entry ∧
      (∀ lease ledger', lease.lease.leaseId = leaseId →
        (issue lease).call (after (calls ++ later)) ≠ (.ok (), ledger')) ∧
      ∀ expected nowMs lease ledger',
        (consume leaseId expected nowMs).call (after (calls ++ later)) ≠ (.ok lease, ledger')

/-- **Main result.** Every history of calls leaves the ledger with a history of that kind. -/
theorem ledger_history (calls : List LedgerCall) : LedgerHistory calls where
  failed c error herror := by
    rw [after_concat]
    exact LedgerCall.clean_method c _ error herror
  once leaseId := by
    have h := chronicle_after calls
    cases hget : (after calls).get leaseId with
    | none =>
        rw [h.unknown leaseId hget]
        exact Nat.zero_le 1
    | some entry =>
        rw [(h.entry leaseId entry hget).consumed]
        split_ifs <;> omega
  consumed leaseId expected nowMs lease ledger' hcall := by
    obtain ⟨entry, hget, rfl, hnone, hfrom, huntil, hexpected, rfl⟩ := call_consume.mp hcall
    have hid := leaseId_eq_of_get hget
    refine ⟨((chronicle_after calls).entry leaseId entry hget).issued, hid, hfrom, huntil, hexpected, ?_, ?_⟩
    · rw [isConsumed, hget, Option.map_some, hnone]
      rfl
    · rw [isConsumed, get_put, if_pos (show leaseId = LeaseEntry.leaseId ⟨entry.lease, some nowMs⟩ from hid.symm)]
      rfl
  final leaseId entry later hget hconsumed := by
    have hlater := get_append calls later hget hconsumed
    refine ⟨hlater, fun lease ledger' hid hcall => ?_, fun expected nowMs lease ledger' hcall => ?_⟩
    · obtain ⟨⟨-, -, -, hfresh⟩, -⟩ := call_issue.mp hcall
      rw [hid, hlater] at hfresh
      exact nomatch hfresh
    · obtain ⟨entry', hget', -, hnone, -⟩ := call_consume.mp hcall
      obtain rfl := Option.some.inj (hlater.symm.trans hget')
      rw [hnone] at hconsumed
      exact nomatch hconsumed

end CapabilityLeaseLedger

end HyperTerm.Core
