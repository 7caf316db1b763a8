import HyperTerm.Daemon.LocalMcpRuntime

/-!
# Clients of local MCP servers

A task has at most one client of a server, no client outlives the close of its task, and no pending entry outlives its
operation, as long as a close does not meet a launch halfway: `Undisturbed` says which steps meet one.

The tokens of a request say what it has done: a launch that is being resolved is won by the request whose decision was
accepted, and a close knows which clients it has taken.
-/

namespace HyperTerm.Daemon
open HyperTerm.Protocol HyperTerm.Core HyperTerm.Lib

namespace McpWorld

def Pending (w : McpWorld) (id : OperationId) : Prop :=
  (∃ p, w.manager.pendingLaunches.get? id = some p) ∨ ∃ p, w.manager.pendingCalls.get? id = some p

/-- A request is resolving the operation. -/
def Resolving (w : McpWorld) (id : OperationId) : Prop :=
  (∃ r ∈ w.launching, r.pending.operationId = id) ∨ id ∈ w.calling

/-- Every client of the key that runs is in `clients`. -/
def Settled (w : McpWorld) (key : RuntimeKey) : Prop :=
  ∀ c ∈ w.live.values, c.key = key → w.manager.clients.get? key = some c

end McpWorld

/-- The steps that do not disturb a launch: an approval is not taken up while its task is being closed, a client is
launched only while its launch is pending and every other client of the pair that runs is in `clients`, a close finds
every client of its tasks in `clients`, and a client that does not end in time is held by nobody else. -/
def Undisturbed : McpOp → McpWorld → Prop
  | .takeLaunch taskId _ decision, w =>
      decision = .allowOnce → ∀ target ∈ w.closing, CloseTarget.covers target taskId = false
  | .spawnClient client, w =>
      (∃ p, w.manager.pendingLaunches.get? client.operationId = some p) ∧ w.Settled client.key
  | .takeTask target, w => ∀ c ∈ w.live.values, target.covers c.key.taskId = true → w.Settled c.key
  | .closeClient operationId ended, w => ended = true ∨ w.holders operationId ≤ 1
  | _, _ => True

/-- What the manager is for. -/
structure ClientsSound (s : Shared McpWorld) : Prop where
  one : ∀ c ∈ s.own.live.values, ∀ c' ∈ s.own.live.values, c.key = c'.key → c = c'
  closed : ∀ id ∈ s.own.closed, s.own.live.get? id = none
  pending : ∀ id, s.own.Pending id → s.own.Resolving id ∨ ∃ r, s.authority.operations.get id = some r ∧
    r.state ∈ [.waitingHuman, .authorized, .dispatching]

/-! ## The invariant -/

/-- How far a launch that is won has got with its client. -/
inductive ClientStage where
  | ahead
  | started
  | past
  deriving DecidableEq

inductive McpToken where
  | lock (manager : ManagerState)
  | launching (request : LaunchRequest)
  | won (request : LaunchRequest) (stage : ClientStage)
  | calling (operationId : OperationId)
  | wonCall (operationId : OperationId)
  | orphan (operationId : OperationId)
  | fresh (operationId : OperationId)
  | closing (target : CloseTarget) (clients : List LocalMcpClient)

namespace McpToken

@[simp] def lock? : McpToken → Option ManagerState
  | lock manager => some manager
  | _ => none

@[simp] def request? : McpToken → Option LaunchRequest
  | launching request | won request _ => some request
  | _ => none

@[simp] def call? : McpToken → Option OperationId
  | calling operationId | wonCall operationId => some operationId
  | _ => none

@[simp] def close? : McpToken → Option CloseTarget
  | closing target _ => some target
  | _ => none

@[simp] def won? : McpToken → Option OperationId
  | won request _ => some request.pending.operationId
  | wonCall operationId => some operationId
  | _ => none

@[simp] def fresh? : McpToken → Option OperationId
  | fresh operationId => some operationId
  | _ => none

@[simp] def orphan? : McpToken → Option OperationId
  | orphan operationId => some operationId
  | _ => none

end McpToken

abbrev McpTokens := Tokens (Multiset McpToken)

/-- What a request holds besides charges. -/
def tok (t : McpToken) : McpTokens := (0, {t})

def picked {β : Type} (f : McpToken → Option β) (m : McpTokens) : Multiset β := m.2.filterMap f

abbrev localMcp (action : OperationAction) : Prop := OperationAction.isLocalMcp action = true

/-- The operation is one of the manager's that has come to the human. -/
def Shared.Known (s : Shared McpWorld) (id : OperationId) : Prop :=
  ∃ r, s.authority.operations.get id = some r ∧ localMcp r.action ∧ r.state ≠ .proposed ∧ r.state ≠ .policyCheck

def Shared.Decided (s : Shared McpWorld) (id : OperationId) : Prop :=
  ∃ r, s.authority.operations.get id = some r ∧ localMcp r.action ∧ r.permissionDecision ≠ none

def Shared.Undecided (s : Shared McpWorld) (id : OperationId) : Prop :=
  ∃ r, s.authority.operations.get id = some r ∧ localMcp r.action ∧ r.revision = 3 ∧ r.state = .waitingHuman ∧
    r.permissionDecision = none

namespace McpWorld

def Touched (w : McpWorld) (id : OperationId) : Prop := w.Pending id ∨ w.Resolving id ∨ id ∈ w.closed

/-- The client is in `clients`. -/
def Filed (w : McpWorld) (id : OperationId) : Prop :=
  ∃ c, w.manager.clients.get? c.key = some c ∧ c.operationId = id

/-- What holds of the manager whatever the requests hold. -/
structure Ok (w : McpWorld) : Prop where
  /-- A request resolves the launch that is pending under the operation, if there is still one. -/
  request : ∀ r ∈ w.launching, ∀ p, w.manager.pendingLaunches.get? r.pending.operationId = some p → p = r.pending
  /-- The launch of an approval that is being resolved while its task is closed is no longer pending. -/
  taken : ∀ r ∈ w.launching, r.decision = .allowOnce → ∀ target ∈ w.closing,
    CloseTarget.covers target r.pending.taskId = true → w.manager.pendingLaunches.get? r.pending.operationId = none
  oneLaunch : ∀ p p', w.manager.pendingLaunches.get? p.operationId = some p →
    w.manager.pendingLaunches.get? p'.operationId = some p' → p.key = p'.key → p = p'
  /-- As long as a launch is pending, only its own client is in `clients` and runs. -/
  own : ∀ p c c', w.manager.pendingLaunches.get? p.operationId = some p → w.manager.clients.get? p.key = some c →
    w.live.get? c.operationId = some c' → c.operationId = p.operationId
  one : ∀ c c', w.live.get? c.operationId = some c → w.live.get? c'.operationId = some c' → c.key = c'.key → c = c'
  closed : ∀ id ∈ w.closed, w.live.get? id = none ∧ w.manager.pendingLaunches.get? id = none
  requestCall : ∀ r ∈ w.launching, w.manager.pendingCalls.get? r.pending.operationId = none
  callLaunch : ∀ id ∈ w.calling, w.manager.pendingLaunches.get? id = none
  separate : ∀ id p q, w.manager.pendingLaunches.get? id = some p → w.manager.pendingCalls.get? id ≠ some q
  launchKey : ∀ id p c, w.manager.pendingLaunches.get? id = some p → w.live.get? id = some c → c.key = p.key
  requestKey : ∀ r ∈ w.launching, ∀ c, w.live.get? r.pending.operationId = some c → c.key = r.pending.key

end McpWorld

def ClientStage.Ok (w : McpWorld) (pending : PendingLaunch) : ClientStage → Prop
  | ahead => w.live.get? pending.operationId = none ∧ ¬w.Filed pending.operationId
  | started => (∀ c, w.live.get? pending.operationId = some c →
      ∃ p, w.manager.pendingLaunches.get? pending.operationId = some p) ∧ ¬w.Filed pending.operationId
  | past => True

def McpToken.Ok (s : Shared McpWorld) : McpToken → Prop
  | won request stage => s.Decided request.pending.operationId ∧ stage.Ok s.own request.pending
  | wonCall id => s.Decided id
  | orphan id => s.Known id ∧ ¬s.own.Pending id
  | fresh id => s.Undecided id ∧ ¬s.own.Touched id
  | closing target clients => ∀ c, s.own.live.get? c.operationId = some c → target.covers c.key.taskId = true →
      c ∈ clients
  | _ => True

/-- How many tokens there are of each kind. -/
structure McpCounted (m : McpTokens) (w : McpWorld) : Prop where
  lock : picked McpToken.lock? m = if w.locked then {w.manager} else 0
  launching : picked McpToken.request? m = w.launching
  calling : picked McpToken.call? m = w.calling
  closing : picked McpToken.close? m = w.closing
  won : (picked McpToken.won? m).Nodup
  fresh : (picked McpToken.fresh? m).Nodup
  apart : Disjoint (picked McpToken.fresh? m) (picked McpToken.orphan? m)

structure McpInv (m : McpTokens) (s : Shared McpWorld) : Prop where
  counted : McpCounted m s.own
  token : ∀ t ∈ m.2, t.Ok s
  charged : ∀ c ∈ m.1, s.own.Pending c.operationId → c.operationId ∈ picked McpToken.won? m
  pending : ∀ id, s.own.Pending id → ∃ r, s.authority.operations.get id = some r ∧
    (r.state = .waitingHuman ∨ id ∈ picked McpToken.won? m)
  known : ∀ id, s.own.Touched id → s.Known id
  decided : ∀ id, (∃ c, s.own.live.get? id = some c) ∨ s.own.Filed id → s.Decided id
  world : s.own.Ok

abbrev mcpInv : McpTokens → Shared McpWorld → Prop := WithCharges localMcp McpInv

variable {C : LineCodec EventEnvelope} {D : Digests} {m : McpTokens} {s : Shared McpWorld}

section Picked

variable {β : Type} (f : McpToken → Option β)

theorem mem_picked {f : McpToken → Option β} {b : β} : b ∈ picked f m ↔ ∃ t ∈ m.2, f t = some b :=
  Multiset.mem_filterMap _ _

@[simp] theorem picked_tok (m : McpTokens) (t : McpToken) :
    picked f (m + tok t) = picked f m + (f t).elim 0 fun b => {b} := by
  show (m.2 + {t}).filterMap f = _
  rw [Multiset.filterMap_add]
  congr 1
  cases hf : f t with
  | none => rw [← Multiset.cons_zero, Multiset.filterMap_cons_none _ _ hf]; rfl
  | some b => rw [← Multiset.cons_zero, Multiset.filterMap_cons_some _ _ _ hf]; rfl

theorem picked_none {f : McpToken → Option β} {t : McpToken} (h : f t = none) : picked f (m + tok t) = picked f m := by
  rw [picked_tok, h]
  exact add_zero _

theorem picked_some {f : McpToken → Option β} {t : McpToken} {b : β} (h : f t = some b) :
    picked f (m + tok t) = picked f m + {b} := by
  rw [picked_tok, h]
  rfl

theorem picked_congr {f : McpToken → Option β} {t t' : McpToken} (h : f t' = f t) :
    picked f (m + tok t') = picked f (m + tok t) := by rw [picked_tok, picked_tok, h]

@[simp] theorem picked_charge (m : McpTokens) (id : OperationId) (revision : Nat) (state : OperationState) :
    picked f (m + charge id revision state) = picked f m := congrArg (Multiset.filterMap f) (add_zero m.2)

@[simp] theorem fst_tok (t : McpToken) : (tok t).1 = 0 := rfl

theorem mem_add_tok {t t' : McpToken} : t' ∈ (m + tok t).2 ↔ t' ∈ m.2 ∨ t' = t := by
  show t' ∈ m.2 + {t} ↔ _
  rw [Multiset.mem_add, Multiset.mem_singleton]

end Picked

theorem McpInv.sound (h : McpInv m s) : ClientsSound s := by
  refine ⟨fun c hc c' hc' hkey => ?_, fun id hid => (h.world.closed id hid).1, fun id hpending => ?_⟩
  · exact h.world.one c c' (Keyed.mem_values.mp hc) (Keyed.mem_values.mp hc') hkey
  · obtain ⟨r, hget, hstate | hwon⟩ := h.pending id hpending
    · exact Or.inr ⟨r, hget, by simp [hstate]⟩
    · left
      obtain ⟨t, ht, hid⟩ := mem_picked.mp hwon
      cases t with
      | won request stage =>
          obtain rfl := Option.some.inj hid
          have hmem : request ∈ picked McpToken.request? m := mem_picked.mpr ⟨_, ht, rfl⟩
          rw [h.counted.launching] at hmem
          exact Or.inl ⟨request, hmem, rfl⟩
      | wonCall operationId =>
          obtain rfl := Option.some.inj hid
          have hmem : operationId ∈ picked McpToken.call? m := mem_picked.mpr ⟨_, ht, rfl⟩
          rw [h.counted.calling] at hmem
          exact Or.inr hmem
      | lock | launching | calling | orphan | fresh | closing => cases hid

/-! ## Records of the authority -/

theorem Shared.Known.of_get {a : AuthorityState} {id : OperationId} (h : s.Known id)
    (hget : a.operations.get id = s.authority.operations.get id) : Shared.Known { s with authority := a } id := by
  obtain ⟨r, hr, h⟩ := h
  exact ⟨r, hget.trans hr, h⟩

theorem Shared.Decided.of_get {a : AuthorityState} {id : OperationId} (h : s.Decided id)
    (hget : a.operations.get id = s.authority.operations.get id) : Shared.Decided { s with authority := a } id := by
  obtain ⟨r, hr, h⟩ := h
  exact ⟨r, hget.trans hr, h⟩

theorem Shared.Undecided.of_get {a : AuthorityState} {id : OperationId} (h : s.Undecided id)
    (hget : a.operations.get id = s.authority.operations.get id) : Shared.Undecided { s with authority := a } id := by
  obtain ⟨r, hr, h⟩ := h
  exact ⟨r, hget.trans hr, h⟩

theorem Shared.Undecided.known {id : OperationId} (h : s.Undecided id) : s.Known id := by
  obtain ⟨r, hr, hours, -, hstate, -⟩ := h
  exact ⟨r, hr, hours, by simp [hstate], by simp [hstate]⟩

theorem Shared.Undecided.not_decided {id : OperationId} (h : s.Undecided id) : ¬s.Decided id := by
  obtain ⟨r, hr, -, -, -, hnone⟩ := h
  rintro ⟨r', hr', -, hsome⟩
  obtain rfl := Option.some.inj (hr'.symm.trans hr)
  exact hsome hnone

/-- The records change so that what the manager knows of its operations stays true. -/
theorem McpInv.of_authority {a : AuthorityState} (h : McpInv m s)
    (hknown : ∀ id, s.Known id → Shared.Known { s with authority := a } id)
    (hdecided : ∀ id, s.Decided id → Shared.Decided { s with authority := a } id)
    (hfresh : ∀ id, McpToken.fresh id ∈ m.2 → s.Undecided id → Shared.Undecided { s with authority := a } id)
    (hpending : ∀ id, s.own.Pending id → s.Known id → ∃ r, a.operations.get id = some r ∧
      (r.state = .waitingHuman ∨ id ∈ picked McpToken.won? m)) :
    McpInv m { s with authority := a } := by
  refine { h with token := fun t ht => ?_, pending := ?_, known := ?_, decided := ?_ }
  · have hok := h.token t ht
    cases t with
    | won request stage => exact ⟨hdecided _ hok.1, hok.2⟩
    | wonCall id => exact hdecided id hok
    | orphan id => exact ⟨hknown id hok.1, hok.2⟩
    | fresh id => exact ⟨hfresh id ht hok.1, hok.2⟩
    | closing target clients => exact hok
    | lock | launching | calling => trivial
  · exact fun id hid => hpending id hid (h.known id (Or.inl hid))
  · exact fun id hid => hknown id (h.known id hid)
  · exact fun id hid => hdecided id (h.decided id hid)

/-- The record of an operation changes that the manager does not know. -/
theorem McpInv.put_unknown {a : AuthorityState} {r : OperationRecord} (h : McpInv m s)
    (hput : a.operations = s.authority.operations.put r) (hknown : ¬s.Known r.operationId)
    (hdecided : ¬s.Decided r.operationId) : McpInv m { s with authority := a } := by
  have hget : ∀ id, id ≠ r.operationId → a.operations.get id = s.authority.operations.get id := fun id hid => by
    rw [hput, OperationReducer.get_put, if_neg hid]
  have hne : ∀ id, s.Known id → id ≠ r.operationId := fun id hid heq => hknown (heq ▸ hid)
  refine h.of_authority (fun id hid => hid.of_get (hget id (hne id hid)))
    (fun id hid => hid.of_get (hget id fun heq => hdecided (heq ▸ hid)))
    (fun id _ hid => hid.of_get (hget id (hne id hid.known))) fun id hpending hid => ?_
  rw [hget id (hne id hid)]
  exact h.pending id hpending

/-- The record of an operation changes that is decided then. -/
theorem McpInv.put_decided {a : AuthorityState} {r : OperationRecord} (h : McpInv m s)
    (hput : a.operations = s.authority.operations.put r) (hours : localMcp r.action)
    (hstate : r.state ≠ .proposed ∧ r.state ≠ .policyCheck) (hdecided : r.permissionDecision ≠ none)
    (hfresh : McpToken.fresh r.operationId ∉ m.2)
    (hpending : s.own.Pending r.operationId →
      r.state = .waitingHuman ∨ r.operationId ∈ picked McpToken.won? m) :
    McpInv m { s with authority := a } := by
  have hself : a.operations.get r.operationId = some r := by rw [hput, OperationReducer.get_put_self]
  have hget : ∀ id, id ≠ r.operationId → a.operations.get id = s.authority.operations.get id := fun id hid => by
    rw [hput, OperationReducer.get_put, if_neg hid]
  refine h.of_authority (fun id hid => ?_) (fun id hid => ?_) (fun id hmem hid => ?_) fun id hid hknown => ?_
  · by_cases heq : id = r.operationId
    · exact heq ▸ ⟨r, hself, hours, hstate⟩
    · exact hid.of_get (hget id heq)
  · by_cases heq : id = r.operationId
    · exact heq ▸ ⟨r, hself, hours, hdecided⟩
    · exact hid.of_get (hget id heq)
  · exact hid.of_get (hget id fun heq => hfresh (heq ▸ hmem))
  · by_cases heq : id = r.operationId
    · subst heq
      exact ⟨r, hself, hpending hid⟩
    · rw [hget id heq]
      exact h.pending id hid

theorem not_known_of_get {id : OperationId} {r : OperationRecord} (hget : s.authority.operations.get id = some r)
    (hstate : r.state = .proposed ∨ r.state = .policyCheck) : ¬s.Known id := by
  rintro ⟨r', hget', -, hproposed, hcheck⟩
  obtain rfl := Option.some.inj (hget'.symm.trans hget)
  exact hstate.elim hproposed hcheck

theorem not_decided_of_get {id : OperationId} {r : OperationRecord} (hget : s.authority.operations.get id = some r)
    (hnone : r.permissionDecision = none) : ¬s.Decided id := by
  rintro ⟨r', hget', -, hdecided⟩
  obtain rfl := Option.some.inj (hget'.symm.trans hget)
  exact hdecided hnone

theorem add_charge (m : McpTokens) (id : OperationId) (revision : Nat) (state : OperationState) :
    m + charge id revision state = (m.1 + {⟨id, revision, state⟩}, m.2) := Prod.ext rfl (add_zero m.2)

theorem McpInv.drop_charge {id : OperationId} {revision : Nat} {state : OperationState}
    (h : McpInv (m + charge id revision state) s) : McpInv m s := by
  rw [add_charge] at h
  exact { h with counted := { h.counted with }, charged := fun c hc => h.charged c (Multiset.mem_add.mpr (Or.inl hc)) }

theorem McpInv.add_charge {id : OperationId} {revision : Nat} {state : OperationState} (h : McpInv m s)
    (hwon : s.own.Pending id → id ∈ picked McpToken.won? m) : McpInv (m + charge id revision state) s := by
  rw [HyperTerm.Daemon.add_charge]
  refine { h with counted := { h.counted with }, charged := fun c hc => ?_ }
  rcases Multiset.mem_add.mp hc with hc | hc
  · exact h.charged c hc
  · rw [Multiset.mem_singleton.mp hc]
    exact hwon

theorem mem_tok {t : McpToken} : t ∈ (m + tok t).2 :=
  Multiset.mem_add.mpr (Or.inr (Multiset.mem_singleton_self t))

theorem of_mem_charge {ours : OperationAction → Prop} {inv : McpTokens → Shared McpWorld → Prop} {id : OperationId}
    {revision : Nat} {state : OperationState} {r : OperationRecord}
    (h : WithCharges ours inv (m + charge id revision state) s) (hget : s.authority.operations.get id = some r) :
    Charge.Of ⟨id, revision, state⟩ r ∧ ours r.action := by
  obtain ⟨r', hget', hof, hours⟩ := h.1.exact ⟨id, revision, state⟩
    (Multiset.mem_add.mpr (Or.inr (Multiset.mem_singleton_self _)))
  obtain rfl := Option.some.inj (hget'.symm.trans hget)
  exact ⟨hof, hours⟩

theorem McpInv.not_fresh {id : OperationId} (h : McpInv m s) (hid : s.own.Touched id) :
    McpToken.fresh id ∉ m.2 := fun hfresh => (h.token _ hfresh).2 hid

theorem mem_picked_of {β : Type} {f : McpToken → Option β} {t : McpToken} {b : β} (ht : t ∈ m.2) (hb : f t = some b) :
    b ∈ picked f m := mem_picked.mpr ⟨t, ht, hb⟩

theorem mem_picked_fresh {id : OperationId} : id ∈ picked McpToken.fresh? m ↔ McpToken.fresh id ∈ m.2 := by
  refine ⟨fun h => ?_, fun h => mem_picked_of h rfl⟩
  obtain ⟨t, ht, hid⟩ := mem_picked.mp h
  cases t with
  | fresh id' => exact Option.some.inj hid ▸ ht
  | lock | launching | won | calling | wonCall | orphan | closing => cases hid

theorem mem_picked_orphan {id : OperationId} : id ∈ picked McpToken.orphan? m ↔ McpToken.orphan id ∈ m.2 := by
  refine ⟨fun h => ?_, fun h => mem_picked_of h rfl⟩
  obtain ⟨t, ht, hid⟩ := mem_picked.mp h
  cases t with
  | orphan id' => exact Option.some.inj hid ▸ ht
  | lock | launching | won | calling | wonCall | fresh | closing => cases hid

theorem McpInv.add_fresh {id : OperationId} (h : McpInv m s) (hid : s.Undecided id) (htouched : ¬s.own.Touched id)
    (hfresh : McpToken.fresh id ∉ m.2) (horphan : McpToken.orphan id ∉ m.2) : McpInv (m + tok (.fresh id)) s where
  counted :=
    { lock := by simpa using h.counted.lock
      launching := by simpa using h.counted.launching
      calling := by simpa using h.counted.calling
      closing := by simpa using h.counted.closing
      won := by simpa using h.counted.won
      fresh := by
        rw [picked_tok]
        refine Multiset.nodup_add.mpr ⟨h.counted.fresh, Multiset.nodup_singleton _, ?_⟩
        exact Multiset.disjoint_singleton.mpr fun hmem => hfresh (mem_picked_fresh.mp hmem)
      apart := by
        rw [picked_tok, picked_tok]
        refine Multiset.disjoint_add_left.mpr ⟨by simpa using h.counted.apart, ?_⟩
        exact Multiset.singleton_disjoint.mpr fun hmem => horphan (mem_picked_orphan.mp (by simpa using hmem)) }
  token t ht := by
    rcases mem_add_tok.mp ht with ht | rfl
    · exact h.token t ht
    · exact ⟨hid, htouched⟩
  charged c hc := by simpa using h.charged c (by simpa using hc)
  pending id' hid' := by simpa using h.pending id' hid'
  known := h.known
  decided := h.decided
  world := h.world

theorem charging_mcpInv : Charging localMcp McpInv fun id => {McpToken.fresh id} where
  fresh_exact m s id h := by
    obtain ⟨⟨r, hget, -, hrevision, hstate, -⟩, -⟩ := h.2.token _ (mem_tok (m := m) (t := .fresh id))
    exact ⟨r, hget, hrevision, hstate⟩
  journal m s a h hsame := by
    refine h.of_authority (fun id hid => hid.of_get (by rw [hsame])) (fun id hid => hid.of_get (by rw [hsame]))
      (fun id _ hid => hid.of_get (by rw [hsame])) fun id hpending _ => ?_
    rw [hsame]
    exact h.pending id hpending
  proposed m s a r h hnone hstate hundecided hput := by
    have hknown : ¬s.Known r.operationId := fun ⟨r', hget, _⟩ => by cases hnone.symm.trans hget
    have hdecided : ¬s.Decided r.operationId := fun ⟨r', hget, _⟩ => by cases hnone.symm.trans hget
    exact (h.2.put_unknown hput hknown hdecided).add_charge fun hpending =>
      absurd (h.2.known _ (Or.inl hpending)) hknown
  checked m s a r h hget hput := by
    have hof := (of_mem_charge h hget).1
    have hknown := not_known_of_get hget (Or.inl hof.state)
    have hdecided := not_decided_of_get hget (hof.decided.mpr (Or.inl hof.state))
    exact (h.2.drop_charge.put_unknown hput hknown hdecided).add_charge fun hpending =>
      absurd (h.2.known _ (Or.inl hpending)) hknown
  waiting m s a r h hget hstate hours hnone hput := by
    have hknown := not_known_of_get hget (Or.inr hstate)
    have hrevision : r.revision + 1 = 3 := congrArg (· + 1) (of_mem_charge h hget).1.revision
    have hinv : McpInv m { s with authority := a } :=
      h.2.drop_charge.put_unknown hput hknown (not_decided_of_get hget hnone)
    have hself : a.operations.get r.operationId =
        some { r with revision := r.revision + 1, state := .waitingHuman } := by
      rw [hput]
      exact OperationReducer.get_put_self _ _
    refine hinv.add_fresh ⟨_, hself, hours, hrevision, rfl, hnone⟩
      (fun htouched => hknown (h.2.known _ htouched)) (fun hmem => hknown ?_) fun hmem => hknown ?_
    · exact (h.2.drop_charge.token _ hmem).1.known
    · exact (h.2.drop_charge.token _ hmem).1
  moved m s a r toState h hget hdecided hvalid hput := by
    obtain ⟨hof, hours⟩ := of_mem_charge h hget
    have hstate : r.state ≠ .proposed := fun hproposed => hdecided (hof.decided.mpr (Or.inl hproposed))
    have hwon := h.2.charged _ (Multiset.mem_add.mpr (Or.inr (Multiset.mem_singleton_self _)))
    rw [picked_charge] at hwon
    refine (h.2.drop_charge.put_decided hput hours (past_check hvalid hstate) hdecided ?_
      fun hpending => Or.inr (hwon hpending)).add_charge hwon
    intro hfresh
    exact (h.2.drop_charge.token _ hfresh).1.not_decided ⟨r, hget, hours, hdecided⟩

/-! ## The maps of the manager -/

namespace McpWorld

variable {w : McpWorld} {id : OperationId}

theorem Ok.kill (h : w.Ok) (id : OperationId) : (w.kill id).Ok :=
  { h with
    own := fun p c c' hp hc hlive => h.own p c c' hp hc (Keyed.get?_erase_eq_some.mp hlive).1
    one := fun c c' hc hc' => h.one c c' (Keyed.get?_erase_eq_some.mp hc).1 (Keyed.get?_erase_eq_some.mp hc').1
    closed := fun id' hid' => ⟨Keyed.get?_retain_eq_none (h.closed id' hid').1, (h.closed id' hid').2⟩
    launchKey := fun id' p c hp hlive => h.launchKey id' p c hp (Keyed.get?_erase_eq_some.mp hlive).1
    requestKey := fun r hr c hlive => h.requestKey r hr c (Keyed.get?_erase_eq_some.mp hlive).1 }

theorem Filed.of_erase {key : RuntimeKey} (h : (w.setClients (w.manager.clients.erase key)).Filed id) : w.Filed id := by
  obtain ⟨c, hc, hid⟩ := h
  exact ⟨c, (Keyed.get?_erase_eq_some.mp hc).1, hid⟩

theorem Ok.eraseClient (h : w.Ok) (key : RuntimeKey) : (w.setClients (w.manager.clients.erase key)).Ok :=
  { h with own := fun p c c' hp hc hlive => h.own p c c' hp (Keyed.get?_erase_eq_some.mp hc).1 hlive }

/-- A client is put where there is none, whose launch is pending if it runs. -/
theorem Ok.putClient (h : w.Ok) {client : LocalMcpClient}
    (hclient : ∀ c, w.live.get? client.operationId = some c →
      ∃ p, w.manager.pendingLaunches.get? client.operationId = some p ∧ p.key = client.key) :
    (w.setClients (w.manager.clients.put client)).Ok := by
  refine { h with own := fun p c c' hp hc hlive => ?_ }
  change (w.manager.clients.put client).get? p.key = some c at hc
  rw [Keyed.get?_put] at hc
  split_ifs at hc with hkey
  · obtain rfl := Option.some.inj hc
    obtain ⟨p', hp', hkey'⟩ := hclient c' hlive
    have hid := Keyed.key_eq_of_get? hp'
    rw [h.oneLaunch p p' hp (hid ▸ hp') (hkey.trans hkey'.symm)]
    exact hid.symm
  · exact h.own p c c' hp hc hlive

theorem Filed.of_put {client : LocalMcpClient} (h : (w.setClients (w.manager.clients.put client)).Filed id) :
    id = client.operationId ∨ w.Filed id := by
  obtain ⟨c, hc, hid⟩ := h
  change (w.manager.clients.put client).get? c.key = some c at hc
  rw [Keyed.get?_put] at hc
  split_ifs at hc with hkey
  · exact Or.inl (Option.some.inj hc ▸ hid.symm)
  · exact Or.inr ⟨c, hc, hid⟩

theorem Ok.eraseLaunch (h : w.Ok) (id : OperationId) : (w.setLaunches (w.manager.pendingLaunches.erase id)).Ok :=
  { h with
    request := fun r hr p hp => h.request r hr p (Keyed.get?_erase_eq_some.mp hp).1
    taken := fun r hr hallow target ht hcovers => Keyed.get?_retain_eq_none (h.taken r hr hallow target ht hcovers)
    oneLaunch := fun p p' hp hp' =>
      h.oneLaunch p p' (Keyed.get?_erase_eq_some.mp hp).1 (Keyed.get?_erase_eq_some.mp hp').1
    own := fun p c c' hp => h.own p c c' (Keyed.get?_erase_eq_some.mp hp).1
    closed := fun id' hid' => ⟨(h.closed id' hid').1, Keyed.get?_retain_eq_none (h.closed id' hid').2⟩
    callLaunch := fun id' hid' => Keyed.get?_retain_eq_none (h.callLaunch id' hid')
    separate := fun id' p q hp => h.separate id' p q (Keyed.get?_erase_eq_some.mp hp).1
    launchKey := fun id' p c hp => h.launchKey id' p c (Keyed.get?_erase_eq_some.mp hp).1 }

theorem Ok.eraseCall (h : w.Ok) (id : OperationId) : (w.setCalls (w.manager.pendingCalls.erase id)).Ok :=
  { h with
    requestCall := fun r hr => Keyed.get?_retain_eq_none (h.requestCall r hr)
    separate := fun id' p q hp hq => h.separate id' p q hp (Keyed.get?_erase_eq_some.mp hq).1 }

/-- A launch is proposed of a pair that has neither a client nor another launch. -/
theorem Ok.putLaunch (h : w.Ok) {p : PendingLaunch} (huntouched : ¬w.Touched p.operationId)
    (hlive : w.live.get? p.operationId = none) (hclient : w.manager.clients.get? p.key = none)
    (hkey : ∀ p', w.manager.pendingLaunches.get? p'.operationId = some p' → p'.key ≠ p.key) :
    (w.setLaunches (w.manager.pendingLaunches.put p)).Ok := by
  have hcases {id : OperationId} {p' : PendingLaunch} (h : (w.manager.pendingLaunches.put p).get? id = some p') :
      id = p.operationId ∧ p' = p ∨ w.manager.pendingLaunches.get? id = some p' := by
    rw [Keyed.get?_put] at h
    split_ifs at h with hid
    · exact Or.inl ⟨hid, (Option.some.inj h).symm⟩
    · exact Or.inr h
  have hrequest : ∀ r ∈ w.launching, r.pending.operationId ≠ p.operationId := fun r hr heq =>
    huntouched (Or.inr (Or.inl (Or.inl ⟨r, hr, heq⟩)))
  refine { h with
    request := ?_, taken := ?_, oneLaunch := ?_, own := ?_, closed := ?_, callLaunch := ?_, separate := ?_, launchKey := ?_ }
  · intro r hr p' hp'
    rcases hcases hp' with ⟨hid, -⟩ | hp'
    · exact absurd hid (hrequest r hr)
    · exact h.request r hr p' hp'
  · intro r hr hallow target ht hcovers
    exact (Keyed.get?_put_of_ne _ _ (hrequest r hr)).trans (h.taken r hr hallow target ht hcovers)
  · intro p₁ p₂ h₁ h₂ heq
    rcases hcases h₁ with ⟨-, rfl⟩ | hold₁ <;> rcases hcases h₂ with ⟨-, rfl⟩ | hold₂
    · rfl
    · exact absurd heq.symm (hkey p₂ hold₂)
    · exact absurd heq (hkey p₁ hold₁)
    · exact h.oneLaunch p₁ p₂ hold₁ hold₂ heq
  · intro p' c c' hp' hc hc'
    rcases hcases hp' with ⟨-, rfl⟩ | hp'
    · cases hclient.symm.trans hc
    · exact h.own p' c c' hp' hc hc'
  · intro id hid
    refine ⟨(h.closed id hid).1, (Keyed.get?_put_of_ne _ _ fun heq => ?_).trans (h.closed id hid).2⟩
    exact huntouched (Or.inr (Or.inr (heq ▸ hid)))
  · intro id hid
    refine (Keyed.get?_put_of_ne _ _ fun heq => ?_).trans (h.callLaunch id hid)
    exact huntouched (Or.inr (Or.inl (Or.inr (heq ▸ hid))))
  · intro id p' q hp' hq
    rcases hcases hp' with ⟨rfl, rfl⟩ | hp'
    · exact huntouched (Or.inl (Or.inr ⟨q, hq⟩))
    · exact h.separate id p' q hp' hq
  · intro id p' c hp' hc
    rcases hcases hp' with ⟨rfl, rfl⟩ | hp'
    · cases hlive.symm.trans hc
    · exact h.launchKey id p' c hp' hc

theorem Ok.putCall (h : w.Ok) {q : PendingCall} (huntouched : ¬w.Touched q.operationId) :
    (w.setCalls (w.manager.pendingCalls.put q)).Ok := by
  refine { h with requestCall := fun r hr => ?_, separate := fun id p q' hp hq' => ?_ }
  · refine (Keyed.get?_put_of_ne _ _ fun heq => ?_).trans (h.requestCall r hr)
    exact huntouched (Or.inr (Or.inl (Or.inl ⟨r, hr, heq⟩)))
  · change (w.manager.pendingCalls.put q).get? id = some q' at hq'
    rw [Keyed.get?_put] at hq'
    split_ifs at hq' with hid
    · exact huntouched (Or.inl (Or.inl ⟨p, hid ▸ hp⟩))
    · exact h.separate id p q' hp hq'

/-- A request takes up a pending launch, which if allowed is not of a task being closed. -/
theorem Ok.takeLaunch (h : w.Ok) {p : PendingLaunch} {decision : PermissionDecision}
    (hp : w.manager.pendingLaunches.get? p.operationId = some p)
    (hclosing : decision = .allowOnce → ∀ target ∈ w.closing, CloseTarget.covers target p.taskId = false) :
    ({ w with launching := ⟨p, decision⟩ :: w.launching } : McpWorld).Ok := by
  refine { h with request := ?_, taken := ?_, requestCall := ?_, requestKey := ?_ }
  · rintro r hr p' hp'
    rcases List.mem_cons.mp hr with rfl | hr
    · exact Option.some.inj (hp'.symm.trans hp)
    · exact h.request r hr p' hp'
  · rintro r hr hallow target ht hcovers
    rcases List.mem_cons.mp hr with rfl | hr
    · exact absurd ((hclosing hallow target ht).symm.trans hcovers) Bool.false_ne_true
    · exact h.taken r hr hallow target ht hcovers
  · rintro r hr
    rcases List.mem_cons.mp hr with rfl | hr
    · rw [Option.eq_none_iff_forall_ne_some]
      exact fun q hq => h.separate _ p q hp hq
    · exact h.requestCall r hr
  · rintro r hr c hc
    rcases List.mem_cons.mp hr with rfl | hr
    · exact h.launchKey _ p c hp hc
    · exact h.requestKey r hr c hc

theorem Ok.endLaunch (h : w.Ok) (request : LaunchRequest) :
    ({ w with launching := w.launching.erase request } : McpWorld).Ok :=
  { h with
    request := fun r hr => h.request r (List.mem_of_mem_erase hr)
    taken := fun r hr => h.taken r (List.mem_of_mem_erase hr)
    requestCall := fun r hr => h.requestCall r (List.mem_of_mem_erase hr)
    requestKey := fun r hr => h.requestKey r (List.mem_of_mem_erase hr) }

/-- A client is launched whose launch is pending, and every other client of the pair that runs is in `clients`. -/
theorem Ok.spawn (h : w.Ok) {r : LaunchRequest} (hr : r ∈ w.launching)
    (hpending : ∃ p, w.manager.pendingLaunches.get? r.pending.operationId = some p)
    (hsettled : w.Settled r.pending.key) (hfiled : ¬w.Filed r.pending.operationId) :
    ({ w with live := w.live.put ⟨r.pending.operationId, r.pending.key⟩ } : McpWorld).Ok := by
  obtain ⟨p, hp⟩ := hpending
  obtain rfl := h.request r hr p hp
  have hcases {id : OperationId} {c : LocalMcpClient}
      (h : (w.live.put ⟨r.pending.operationId, r.pending.key⟩).get? id = some c) :
      id = r.pending.operationId ∧ c = ⟨r.pending.operationId, r.pending.key⟩ ∨
        id ≠ r.pending.operationId ∧ w.live.get? id = some c := by
    rw [Keyed.get?_put] at h
    split_ifs at h with hid
    · exact Or.inl ⟨hid, (Option.some.inj h).symm⟩
    · exact Or.inr ⟨hid, h⟩
  have hnone : ∀ c, w.live.get? c.operationId = some c → c.key = r.pending.key →
      c.operationId = r.pending.operationId := by
    intro c hc hkey
    have hclient := hsettled c (Keyed.mem_values.mpr hc) hkey
    exact h.own r.pending c c hp hclient hc
  refine { h with own := ?_, one := ?_, closed := ?_, launchKey := ?_, requestKey := ?_ }
  · intro p' c c' hp' hc hc'
    rcases hcases hc' with ⟨hid, -⟩ | ⟨-, hc'⟩
    · exact absurd ⟨c, Keyed.key_eq_of_get? hc ▸ hc, hid⟩ hfiled
    · exact h.own p' c c' hp' hc hc'
  · intro c c' hc hc' hkey
    rcases hcases hc with ⟨-, rfl⟩ | ⟨hne, hc⟩ <;> rcases hcases hc' with ⟨-, rfl⟩ | ⟨hne', hc'⟩
    · rfl
    · exact absurd (hnone c' hc' hkey.symm) hne'
    · exact absurd (hnone c hc hkey) hne
    · exact h.one c c' hc hc' hkey
  · intro id hid
    refine ⟨(Keyed.get?_put_of_ne _ _ fun heq => ?_).trans (h.closed id hid).1, (h.closed id hid).2⟩
    have heq : id = r.pending.operationId := heq
    rw [← heq, (h.closed id hid).2] at hp
    cases hp
  · intro id p' c hp' hc
    rcases hcases hc with ⟨rfl, rfl⟩ | ⟨-, hc⟩
    · rw [Option.some.inj (hp'.symm.trans hp)]
    · exact h.launchKey id p' c hp' hc
  · intro r' hr' c hc
    rcases hcases hc with ⟨hid, rfl⟩ | ⟨-, hc⟩
    · rw [h.request r' hr' r.pending (hid ▸ hp)]
    · exact h.requestKey r' hr' c hc

/-- A close takes the entries and the clients of its tasks. -/
theorem Ok.takeTask (h : w.Ok) (target : CloseTarget) :
    ({ w with manager := w.manager.closeTarget target, closing := target :: w.closing } : McpWorld).Ok :=
  { h with
    request := fun r hr p hp => h.request r hr p (Keyed.get?_retain_eq_some.mp hp).1
    taken := by
      intro r hr hallow target' ht hcovers
      rcases List.mem_cons.mp ht with rfl | ht
      · rw [Option.eq_none_iff_forall_ne_some]
        intro p hp
        obtain ⟨hp, hkept⟩ := Keyed.get?_retain_eq_some.mp hp
        rw [h.request r hr p hp, hcovers] at hkept
        exact Bool.false_ne_true hkept
      · exact Keyed.get?_retain_eq_none (h.taken r hr hallow target' ht hcovers)
    oneLaunch := fun p p' hp hp' =>
      h.oneLaunch p p' (Keyed.get?_retain_eq_some.mp hp).1 (Keyed.get?_retain_eq_some.mp hp').1
    own := fun p c c' hp hc =>
      h.own p c c' (Keyed.get?_retain_eq_some.mp hp).1 (Keyed.get?_retain_eq_some.mp hc).1
    closed := fun id' hid' => ⟨(h.closed id' hid').1, Keyed.get?_retain_eq_none (h.closed id' hid').2⟩
    requestCall := fun r hr => Keyed.get?_retain_eq_none (h.requestCall r hr)
    callLaunch := fun id' hid' => Keyed.get?_retain_eq_none (h.callLaunch id' hid')
    separate := fun id' p q hp hq =>
      h.separate id' p q (Keyed.get?_retain_eq_some.mp hp).1 (Keyed.get?_retain_eq_some.mp hq).1
    launchKey := fun id' p c hp => h.launchKey id' p c (Keyed.get?_retain_eq_some.mp hp).1 }

/-- A close returns that has closed the clients of its tasks. -/
theorem Ok.closeReturned (h : w.Ok) {target : CloseTarget} (htarget : target ∈ w.closing)
    (hclosed : ∀ c, w.live.get? c.operationId = some c → target.covers c.key.taskId = false) :
    ({ w with closing := w.closing.erase target, closed := w.closed ++ w.launchesOf target } : McpWorld).Ok := by
  refine { h with taken := ?_, closed := ?_ }
  · exact fun r hr hallow target' ht => h.taken r hr hallow target' (List.mem_of_mem_erase ht)
  · intro id hid
    have hdead {c : LocalMcpClient} (hc : w.live.get? id = some c) : target.covers c.key.taskId = false :=
      hclosed c (Keyed.key_eq_of_get? hc ▸ hc)
    rcases List.mem_append.mp hid with hid | hid
    · exact h.closed id hid
    rcases List.mem_append.mp hid with hid | hid
    · obtain ⟨c, hc, rfl⟩ := List.mem_map.mp hid
      obtain ⟨hc, hcovers⟩ := List.mem_filter.mp hc
      exact absurd ((hclosed c (Keyed.mem_values.mp hc)).symm.trans hcovers) Bool.false_ne_true
    · obtain ⟨r, hr, rfl⟩ := List.mem_map.mp hid
      obtain ⟨hr, hcovers⟩ := List.mem_filter.mp hr
      obtain ⟨hallow, hcovers⟩ := of_decide_eq_true hcovers
      refine ⟨?_, h.taken r hr hallow target htarget hcovers⟩
      rw [Option.eq_none_iff_forall_ne_some]
      intro c hc
      have hkey := h.requestKey r hr c hc
      have := hdead hc
      rw [hkey] at this
      exact Bool.false_ne_true (this.symm.trans hcovers)

end McpWorld

/-! ## One lemma an operation -/

theorem not_mem_picked_of_nodup {β : Type} {f : McpToken → Option β} {t : McpToken} {b : β}
    (h : (picked f (m + tok t)).Nodup) (ht : f t = some b) : b ∉ picked f m := by
  rw [picked_tok, ht] at h
  exact Multiset.disjoint_singleton.mp (Multiset.nodup_add.mp h).2.2

theorem McpInv.manager_eq {manager : ManagerState} (h : McpInv (m + tok (.lock manager)) s) :
    s.own.locked = true ∧ s.own.manager = manager ∧ picked McpToken.lock? m = 0 := by
  have hlock := h.counted.lock
  rw [picked_tok] at hlock
  split_ifs at hlock with hlocked
  · have hcard := congrArg Multiset.card hlock
    have hzero : picked McpToken.lock? m = 0 := by
      rw [← Multiset.card_eq_zero]
      simpa using hcard
    rw [hzero] at hlock
    exact ⟨hlocked, (Multiset.singleton_inj.mp (by simpa using hlock)).symm, hzero⟩
  · have hcard := congrArg Multiset.card hlock
    simp at hcard

theorem McpInv.kill (h : McpInv m s) (id : OperationId) : McpInv m { s with own := s.own.kill id } := by
  refine { h with
    counted := { h.counted with }
    token := fun t ht => ?_
    decided := fun id' hid' => h.decided id' ?_
    world := h.world.kill id }
  · have hok := h.token t ht
    cases t with
    | won request stage =>
        refine ⟨hok.1, ?_⟩
        cases stage with
        | ahead => exact ⟨Keyed.get?_retain_eq_none hok.2.1, hok.2.2⟩
        | started => exact ⟨fun c hc => hok.2.1 c (Keyed.get?_erase_eq_some.mp hc).1, hok.2.2⟩
        | past => trivial
    | closing target clients => exact fun c hc => hok c (Keyed.get?_erase_eq_some.mp hc).1
    | lock | launching | calling | wonCall | orphan | fresh => exact hok
  · exact hid'.imp_left fun ⟨c, hc⟩ => ⟨c, (Keyed.get?_erase_eq_some.mp hc).1⟩

theorem McpInv.eraseClient (h : McpInv m s) (hlocked : s.own.locked = false) (key : RuntimeKey) :
    McpInv m { s with own := s.own.setClients (s.own.manager.clients.erase key) } := by
  have hlock := h.counted.lock
  rw [hlocked] at hlock
  refine { h with
    counted := { h.counted with lock := hlock.trans (by simp [McpWorld.setClients, hlocked]) }
    token := fun t ht => ?_
    decided := fun id' hid' => h.decided id' (hid'.imp_right McpWorld.Filed.of_erase)
    world := h.world.eraseClient key }
  have hok := h.token t ht
  cases t with
  | won request stage =>
      refine ⟨hok.1, ?_⟩
      cases stage with
      | ahead => exact ⟨hok.2.1, fun hfiled => hok.2.2 hfiled.of_erase⟩
      | started => exact ⟨hok.2.1, fun hfiled => hok.2.2 hfiled.of_erase⟩
      | past => trivial
  | lock | launching | calling | wonCall | orphan | fresh | closing => exact hok

theorem McpInv.takeLock (h : McpInv m s) (hlocked : s.own.locked = false) :
    McpInv (m + tok (.lock s.own.manager)) { s with own := { s.own with locked := true } } where
  counted :=
    { lock := by
        have hlock := h.counted.lock
        rw [hlocked] at hlock
        rw [picked_tok, hlock]
        rfl
      launching := by simpa using h.counted.launching
      calling := by simpa using h.counted.calling
      closing := by simpa using h.counted.closing
      won := by simpa using h.counted.won
      fresh := by simpa using h.counted.fresh
      apart := by simpa using h.counted.apart }
  token t ht := by
    rcases mem_add_tok.mp ht with ht | rfl
    · have hok := h.token t ht
      cases t with
      | lock | launching | won | calling | wonCall | orphan | fresh | closing => exact hok
    · trivial
  charged c hc hid := by
    have hwon := h.charged c (by simpa using hc) hid
    simpa using hwon
  pending id hid := by
    have hpending := h.pending id hid
    simpa using hpending
  known := h.known
  decided := h.decided
  world := { h.world with }

/-- The tokens of the others. -/
theorem McpInv.of_tok {t : McpToken} (h : McpInv (m + tok t) s) {t' : McpToken} (ht : t' ∈ m.2) : t'.Ok s :=
  h.token t' (mem_add_tok.mpr (Or.inl ht))

theorem McpInv.unlock {manager : ManagerState} (h : McpInv (m + tok (.lock manager)) s) :
    McpInv m { s with own := { s.own with locked := false } } where
  counted :=
    { lock := h.manager_eq.2.2
      launching := by simpa using h.counted.launching
      calling := by simpa using h.counted.calling
      closing := by simpa using h.counted.closing
      won := by simpa using h.counted.won
      fresh := by simpa using h.counted.fresh
      apart := by simpa using h.counted.apart }
  token t ht := by
    have hok := h.of_tok ht
    cases t with
    | lock | launching | won | calling | wonCall | orphan | fresh | closing => exact hok
  charged c hc hid := by
    have hwon := h.charged c (by simpa using hc) hid
    simpa using hwon
  pending id hid := by
    have hpending := h.pending id hid
    simpa using hpending
  known := h.known
  decided := h.decided
  world := { h.world with }

/-- A pending operation is no longer fresh. -/
theorem McpInv.putPending {id : OperationId} {manager : ManagerState} (h : McpInv (m + tok (.fresh id)) s)
    (hlocked : s.own.locked = false) (hcharge : ∀ c ∈ m.1, c.operationId ≠ id)
    (hpending : ∀ id', { s.own with manager : McpWorld }.Pending id' → id' = id ∨ s.own.Pending id')
    (hlaunches : ∀ id' p, s.own.manager.pendingLaunches.get? id' = some p →
      ∃ p', manager.pendingLaunches.get? id' = some p')
    (hclients : manager.clients = s.own.manager.clients) (hworld : { s.own with manager : McpWorld }.Ok) :
    McpInv m { s with own := { s.own with manager } } := by
  obtain ⟨hundecided, huntouched⟩ := h.token _ mem_tok
  have htouched : ∀ id', { s.own with manager : McpWorld }.Touched id' → id' = id ∨ s.own.Touched id' := by
    rintro id' (hid' | hid')
    · exact (hpending id' hid').imp_right Or.inl
    · exact Or.inr (Or.inr hid')
  have hfiled : ∀ id', { s.own with manager : McpWorld }.Filed id' → s.own.Filed id' := by
    rintro id' ⟨c, hc, hid'⟩
    exact ⟨c, hclients ▸ hc, hid'⟩
  refine ⟨⟨?_, ?_, ?_, ?_, ?_, ?_, ?_⟩, fun t ht => ?_, fun c hc hid' => ?_, fun id' hid' => ?_, fun id' hid' => ?_,
    fun id' hid' => ?_, hworld⟩
  · have hlock := h.counted.lock
    rw [hlocked] at hlock
    simpa [hlocked] using hlock
  · simpa using h.counted.launching
  · simpa using h.counted.calling
  · simpa using h.counted.closing
  · simpa using h.counted.won
  · have hfresh := h.counted.fresh
    rw [picked_tok] at hfresh
    exact (Multiset.nodup_add.mp hfresh).1
  · have hapart := h.counted.apart
    rw [picked_tok] at hapart
    simpa using (Multiset.disjoint_add_left.mp hapart).1
  · have hok := h.of_tok ht
    cases t with
    | won request stage =>
        refine ⟨hok.1, ?_⟩
        cases stage with
        | ahead => exact ⟨hok.2.1, fun hf => hok.2.2 (hfiled _ hf)⟩
        | started =>
            refine ⟨fun c hc => ?_, fun hf => hok.2.2 (hfiled _ hf)⟩
            obtain ⟨p, hp⟩ := hok.2.1 c hc
            exact hlaunches _ p hp
        | past => trivial
    | orphan id' =>
        refine ⟨hok.1, fun hid' => ?_⟩
        rcases hpending id' hid' with rfl | hid'
        · refine (Multiset.disjoint_left.mp h.counted.apart) (mem_picked_fresh.mpr mem_tok) ?_
          exact mem_picked_orphan.mpr (mem_add_tok.mpr (Or.inl ht))
        · exact hok.2 hid'
    | fresh id' =>
        refine ⟨hok.1, fun hid' => ?_⟩
        rcases htouched id' hid' with rfl | hid'
        · exact not_mem_picked_of_nodup h.counted.fresh rfl (mem_picked_fresh.mpr ht)
        · exact hok.2 hid'
    | lock | launching | calling | wonCall | closing => exact hok
  · rcases hpending _ hid' with heq | hid'
    · exact absurd heq (hcharge c hc)
    · have hwon := h.charged c (by simpa using hc) hid'
      simpa using hwon
  · rcases hpending id' hid' with rfl | hid'
    · obtain ⟨r, hget, -, -, hstate, -⟩ := hundecided
      exact ⟨r, hget, Or.inl hstate⟩
    · have hold := h.pending id' hid'
      simpa using hold
  · rcases htouched id' hid' with rfl | hid'
    · exact hundecided.known
    · exact h.known id' hid'
  · exact h.decided id' (hid'.imp_right (hfiled id'))

theorem McpInv.putLaunch {p : PendingLaunch} (h : McpInv (m + tok (.fresh p.operationId)) s)
    (hlocked : s.own.locked = false) (hcharge : ∀ c ∈ m.1, c.operationId ≠ p.operationId)
    (hclient : s.own.manager.clients.get? p.key = none)
    (hkey : ∀ p', s.own.manager.pendingLaunches.get? p'.operationId = some p' → p'.key ≠ p.key) :
    McpInv m { s with own := s.own.setLaunches (s.own.manager.pendingLaunches.put p) } := by
  obtain ⟨hundecided, huntouched⟩ := h.token _ mem_tok
  have hlive : s.own.live.get? p.operationId = none := by
    rw [Option.eq_none_iff_forall_ne_some]
    exact fun c hc => hundecided.not_decided (h.decided _ (Or.inl ⟨c, hc⟩))
  refine h.putPending hlocked hcharge (fun id hid => ?_) (fun id p' hp' => ?_) rfl
    (h.world.putLaunch huntouched hlive hclient hkey)
  · rcases hid with ⟨p', hp'⟩ | hid
    · by_cases heq : id = p.operationId
      · exact Or.inl heq
      · exact Or.inr (Or.inl ⟨p', (Keyed.get?_put_of_ne _ _ heq).symm.trans hp'⟩)
    · exact Or.inr (Or.inr hid)
  · by_cases heq : id = p.operationId
    · exact ⟨p, heq ▸ Keyed.get?_put_self _ _⟩
    · exact ⟨p', (Keyed.get?_put_of_ne _ _ heq).trans hp'⟩

theorem McpInv.putCall {q : PendingCall} (h : McpInv (m + tok (.fresh q.operationId)) s)
    (hlocked : s.own.locked = false) (hcharge : ∀ c ∈ m.1, c.operationId ≠ q.operationId) :
    McpInv m { s with own := s.own.setCalls (s.own.manager.pendingCalls.put q) } := by
  refine h.putPending hlocked hcharge (fun id hid => ?_) (fun id p' hp' => ⟨p', hp'⟩) rfl
    (h.world.putCall (h.token _ mem_tok).2)
  rcases hid with hid | ⟨q', hq'⟩
  · exact Or.inr (Or.inl hid)
  · by_cases heq : id = q.operationId
    · exact Or.inl heq
    · exact Or.inr (Or.inr ⟨q', (Keyed.get?_put_of_ne _ _ heq).symm.trans hq'⟩)

/-- A request takes up an operation that is pending. -/
theorem McpInv.takePending {id : OperationId} {t : McpToken} {launching : List LaunchRequest}
    {calling : List OperationId} (h : McpInv m s) (hid : s.own.Pending id)
    (ht : t.Ok { s with own := { s.own with launching, calling } })
    (hnone : t.lock? = none ∧ t.close? = none ∧ t.won? = none ∧ t.fresh? = none ∧ t.orphan? = none)
    (hlaunching : picked McpToken.request? (m + tok t) = launching)
    (hcalling : picked McpToken.call? (m + tok t) = calling)
    (hresolving : ∀ id', { s.own with launching, calling : McpWorld }.Resolving id' → id' = id ∨ s.own.Resolving id')
    (hworld : { s.own with launching, calling : McpWorld }.Ok) :
    McpInv (m + tok t) { s with own := { s.own with launching, calling } } := by
  have htouched : ∀ id', { s.own with launching, calling : McpWorld }.Touched id' → s.own.Touched id' := by
    rintro id' (hid' | hid' | hid')
    · exact Or.inl hid'
    · rcases hresolving id' hid' with rfl | hid'
      · exact Or.inl hid
      · exact Or.inr (Or.inl hid')
    · exact Or.inr (Or.inr hid')
  obtain ⟨hlock, hclose, hwon, hfresh, horphan⟩ := hnone
  refine ⟨⟨?_, hlaunching, hcalling, ?_, ?_, ?_, ?_⟩, fun t' ht' => ?_, fun c hc hid' => ?_, fun id' hid' => ?_,
    fun id' hid' => h.known id' (htouched id' hid'), h.decided, hworld⟩
  · exact (picked_none hlock).trans h.counted.lock
  · exact (picked_none hclose).trans h.counted.closing
  · exact (picked_none hwon).symm ▸ h.counted.won
  · exact (picked_none hfresh).symm ▸ h.counted.fresh
  · rw [picked_none hfresh, picked_none horphan]
    exact h.counted.apart
  · rcases mem_add_tok.mp ht' with ht' | rfl
    · have hok := h.token t' ht'
      cases t' with
      | fresh id' => exact ⟨hok.1, fun hid' => hok.2 (htouched id' hid')⟩
      | lock | launching | won | calling | wonCall | orphan | closing => exact hok
    · exact ht
  · rw [picked_none hwon]
    exact h.charged c (by simpa using hc) hid'
  · rw [picked_none hwon]
    exact h.pending id' hid'

theorem McpInv.takeLaunch {p : PendingLaunch} {decision : PermissionDecision} (h : McpInv m s)
    (hp : s.own.manager.pendingLaunches.get? p.operationId = some p)
    (hclosing : decision = .allowOnce → ∀ target ∈ s.own.closing, CloseTarget.covers target p.taskId = false) :
    McpInv (m + tok (.launching ⟨p, decision⟩))
      { s with own := { s.own with launching := ⟨p, decision⟩ :: s.own.launching } } := by
  refine h.takePending (Or.inl ⟨p, hp⟩) trivial ⟨rfl, rfl, rfl, rfl, rfl⟩ ?_ ?_ ?_ (h.world.takeLaunch hp hclosing)
  · rw [picked_tok, h.counted.launching, ← Multiset.cons_coe, ← Multiset.singleton_add, add_comm]
    rfl
  · simpa using h.counted.calling
  · rintro id (⟨r, hr, rfl⟩ | hid)
    · rcases List.mem_cons.mp hr with rfl | hr
      · exact Or.inl rfl
      · exact Or.inr (Or.inl ⟨r, hr, rfl⟩)
    · exact Or.inr (Or.inr hid)

theorem McpInv.takeCall {id : OperationId} (h : McpInv m s) {q : PendingCall}
    (hq : s.own.manager.pendingCalls.get? id = some q) :
    McpInv (m + tok (.calling id)) { s with own := { s.own with calling := id :: s.own.calling } } := by
  have hlaunch : s.own.manager.pendingLaunches.get? id = none := by
    rw [Option.eq_none_iff_forall_ne_some]
    exact fun p hp => h.world.separate id p q hp hq
  refine h.takePending (Or.inr ⟨q, hq⟩) trivial ⟨rfl, rfl, rfl, rfl, rfl⟩ ?_ ?_ ?_ { h.world with
    callLaunch := fun id' hid' => (List.mem_cons.mp hid').elim (fun heq => heq ▸ hlaunch) (h.world.callLaunch id') }
  · simpa using h.counted.launching
  · rw [picked_tok, h.counted.calling, ← Multiset.cons_coe, ← Multiset.singleton_add, add_comm]
    rfl
  · rintro id' (hid | hid)
    · exact Or.inr (Or.inl hid)
    · exact (List.mem_cons.mp hid).imp_right Or.inr

/-- What a request holds for an operation turns into what it holds once it has won the decision. -/
theorem McpInv.win {id : OperationId} {t t' : McpToken} (h : McpInv (m + tok t) s)
    (hwon : t.won? = none ∧ t'.won? = some id) (hundecided : id ∉ picked McpToken.won? m)
    (hsame : t'.lock? = t.lock? ∧ t'.request? = t.request? ∧ t'.call? = t.call? ∧ t'.close? = t.close? ∧
      t'.fresh? = t.fresh? ∧ t'.orphan? = t.orphan?) (ht : t'.Ok s) : McpInv (m + tok t') s := by
  obtain ⟨hlock, hrequest, hcall, hclose, hfresh, horphan⟩ := hsame
  have hmono : ∀ id', id' ∈ picked McpToken.won? (m + tok t) → id' ∈ picked McpToken.won? (m + tok t') := by
    intro id' hid'
    rw [picked_none hwon.1] at hid'
    rw [picked_some hwon.2]
    exact Multiset.mem_add.mpr (Or.inl hid')
  refine ⟨⟨?_, ?_, ?_, ?_, ?_, ?_, ?_⟩, fun t'' ht'' => ?_, fun c hc hid' => ?_, fun id' hid' => ?_, h.known, h.decided,
    h.world⟩
  · exact (picked_congr hlock).trans h.counted.lock
  · exact (picked_congr hrequest).trans h.counted.launching
  · exact (picked_congr hcall).trans h.counted.calling
  · exact (picked_congr hclose).trans h.counted.closing
  · rw [picked_some hwon.2]
    refine Multiset.nodup_add.mpr ⟨?_, Multiset.nodup_singleton _, Multiset.disjoint_singleton.mpr hundecided⟩
    exact picked_none hwon.1 ▸ h.counted.won
  · exact (picked_congr hfresh).symm ▸ h.counted.fresh
  · rw [picked_congr hfresh, picked_congr horphan]
    exact h.counted.apart
  · rcases mem_add_tok.mp ht'' with ht'' | rfl
    · exact h.of_tok ht''
    · exact ht
  · exact hmono _ (h.charged c (by simpa using hc) hid')
  · obtain ⟨r, hget, hstate⟩ := h.pending id' hid'
    exact ⟨r, hget, hstate.imp_right (hmono id')⟩

theorem McpInv.decided_of_won {id : OperationId} (h : McpInv m s) (hid : id ∈ picked McpToken.won? m) :
    s.Decided id := by
  obtain ⟨t, ht, hwon⟩ := mem_picked.mp hid
  have hok := h.token t ht
  cases t with
  | won request stage =>
      obtain rfl := Option.some.inj hwon
      exact hok.1
  | wonCall id' =>
      obtain rfl := Option.some.inj hwon
      exact hok
  | lock | launching | calling | orphan | fresh | closing => cases hwon

/-- The request that has won a launch and not launched its client. -/
theorem McpInv.winLaunch {r : LaunchRequest} {record : OperationRecord} {a : AuthorityState}
    {decision : PermissionDecision} (h : McpInv (m + tok (.launching r)) s)
    (hid : record.operationId = r.pending.operationId)
    (hget : s.authority.operations.get r.pending.operationId = some record) (hstate : record.state = .waitingHuman)
    (hnone : record.permissionDecision = none)
    (hput : a.operations = s.authority.operations.put { record with permissionDecision := some decision }) :
    localMcp record.action ∧ McpInv (m + tok (.won r .ahead)) { s with authority := a } := by
  have hundecided : ¬s.Decided r.pending.operationId := not_decided_of_get hget hnone
  have hmem : r ∈ s.own.launching := by
    have hpicked := mem_picked_of (f := McpToken.request?) (b := r) (mem_tok (m := m) (t := .launching r)) rfl
    rwa [h.counted.launching] at hpicked
  have htouched : s.own.Touched r.pending.operationId := Or.inr (Or.inl (Or.inl ⟨r, hmem, rfl⟩))
  obtain ⟨record', hget', hours, -, -⟩ := h.known _ htouched
  obtain rfl := Option.some.inj (hget'.symm.trans hget)
  refine ⟨hours, ?_⟩
  have hself : a.operations.get r.pending.operationId =
      some { record' with permissionDecision := some decision } := by
    rw [hput, ← hid]
    exact OperationReducer.get_put_self _ _
  have hdecided : McpInv (m + tok (.launching r)) { s with authority := a } :=
    h.put_decided hput hours (by simp [hstate]) (by simp) (h.not_fresh (hid ▸ htouched)) fun _ => Or.inl hstate
  refine hdecided.win ⟨rfl, rfl⟩ (fun hwon => hundecided (h.decided_of_won ?_)) ⟨rfl, rfl, rfl, rfl, rfl, rfl⟩
    ⟨⟨_, hself, hours, Option.some_ne_none decision⟩, ?_, ?_⟩
  · rw [picked_none rfl]
    exact hwon
  · rw [Option.eq_none_iff_forall_ne_some]
    exact fun c hc => hundecided (h.decided _ (Or.inl ⟨c, hc⟩))
  · exact fun hfiled => hundecided (h.decided _ (Or.inr hfiled))

theorem McpInv.winCall {id : OperationId} {record : OperationRecord} {a : AuthorityState}
    {decision : PermissionDecision} (h : McpInv (m + tok (.calling id)) s) (hid : record.operationId = id)
    (hget : s.authority.operations.get id = some record) (hstate : record.state = .waitingHuman)
    (hnone : record.permissionDecision = none)
    (hput : a.operations = s.authority.operations.put { record with permissionDecision := some decision }) :
    localMcp record.action ∧ McpInv (m + tok (.wonCall id)) { s with authority := a } := by
  have hundecided : ¬s.Decided id := not_decided_of_get hget hnone
  have hmem : id ∈ s.own.calling := by
    have hpicked := mem_picked_of (f := McpToken.call?) (b := id) (mem_tok (m := m) (t := .calling id)) rfl
    rwa [h.counted.calling] at hpicked
  have htouched : s.own.Touched id := Or.inr (Or.inl (Or.inr hmem))
  obtain ⟨record', hget', hours, -, -⟩ := h.known _ htouched
  obtain rfl := Option.some.inj (hget'.symm.trans hget)
  refine ⟨hours, ?_⟩
  have hself : a.operations.get id = some { record' with permissionDecision := some decision } := by
    rw [hput, ← hid]
    exact OperationReducer.get_put_self _ _
  have hdecided : McpInv (m + tok (.calling id)) { s with authority := a } :=
    h.put_decided hput hours (by simp [hstate]) (by simp) (h.not_fresh (hid ▸ htouched)) fun _ => Or.inl hstate
  refine hdecided.win ⟨rfl, rfl⟩ (fun hwon => hundecided (h.decided_of_won ?_)) ⟨rfl, rfl, rfl, rfl, rfl, rfl⟩
    ⟨_, hself, hours, Option.some_ne_none decision⟩
  rw [picked_none rfl]
  exact hwon

/-- A token is exchanged for one of the same kind. -/
theorem McpInv.swap {t t' : McpToken} (h : McpInv (m + tok t) s)
    (hsame : t'.lock? = t.lock? ∧ t'.request? = t.request? ∧ t'.call? = t.call? ∧ t'.close? = t.close? ∧
      t'.won? = t.won? ∧ t'.fresh? = t.fresh? ∧ t'.orphan? = t.orphan?) (ht : t'.Ok s) : McpInv (m + tok t') s := by
  obtain ⟨hlock, hrequest, hcall, hclose, hwon, hfresh, horphan⟩ := hsame
  refine ⟨⟨?_, ?_, ?_, ?_, ?_, ?_, ?_⟩, fun t'' ht'' => ?_, fun c hc hid' => ?_, fun id' hid' => ?_, h.known, h.decided,
    h.world⟩
  · exact (picked_congr hlock).trans h.counted.lock
  · exact (picked_congr hrequest).trans h.counted.launching
  · exact (picked_congr hcall).trans h.counted.calling
  · exact (picked_congr hclose).trans h.counted.closing
  · exact (picked_congr hwon).symm ▸ h.counted.won
  · exact (picked_congr hfresh).symm ▸ h.counted.fresh
  · rw [picked_congr hfresh, picked_congr horphan]
    exact h.counted.apart
  · rcases mem_add_tok.mp ht'' with ht'' | rfl
    · exact h.of_tok ht''
    · exact ht
  · rw [picked_congr hwon]
    exact h.charged c (by simpa using hc) hid'
  · rw [picked_congr hwon]
    exact h.pending id' hid'

/-- The request that has won a decision keeps its operation no longer from being resolved. -/
theorem McpInv.concede {id : OperationId} {t t' : McpToken} (h : McpInv (m + tok t) s)
    (hwon : t.won? = some id ∧ t'.won? = none)
    (hsame : t'.lock? = t.lock? ∧ t'.request? = t.request? ∧ t'.call? = t.call? ∧ t'.close? = t.close? ∧
      t'.fresh? = t.fresh? ∧ t'.orphan? = t.orphan?) (ht : t'.Ok s)
    (hpending : s.own.Pending id → (∀ c ∈ m.1, c.operationId ≠ id) ∧
      ∃ r, s.authority.operations.get id = some r ∧ r.state = .waitingHuman) : McpInv (m + tok t') s := by
  obtain ⟨hlock, hrequest, hcall, hclose, hfresh, horphan⟩ := hsame
  have hmem : ∀ id', id' ∈ picked McpToken.won? (m + tok t) → id' = id ∨ id' ∈ picked McpToken.won? (m + tok t') := by
    intro id' hid'
    rw [picked_some hwon.1, Multiset.mem_add, Multiset.mem_singleton] at hid'
    rw [picked_none hwon.2]
    exact hid'.symm
  refine ⟨⟨?_, ?_, ?_, ?_, ?_, ?_, ?_⟩, fun t'' ht'' => ?_, fun c hc hid' => ?_, fun id' hid' => ?_, h.known, h.decided,
    h.world⟩
  · exact (picked_congr hlock).trans h.counted.lock
  · exact (picked_congr hrequest).trans h.counted.launching
  · exact (picked_congr hcall).trans h.counted.calling
  · exact (picked_congr hclose).trans h.counted.closing
  · have hold := h.counted.won
    rw [picked_some hwon.1] at hold
    rw [picked_none hwon.2]
    exact (Multiset.nodup_add.mp hold).1
  · exact (picked_congr hfresh).symm ▸ h.counted.fresh
  · rw [picked_congr hfresh, picked_congr horphan]
    exact h.counted.apart
  · rcases mem_add_tok.mp ht'' with ht'' | rfl
    · exact h.of_tok ht''
    · exact ht
  · have hc : c ∈ m.1 := by simpa using hc
    rcases hmem _ (h.charged c (by simpa using hc) hid') with heq | hpicked
    · exact absurd heq ((hpending (heq ▸ hid')).1 c hc)
    · exact hpicked
  · obtain ⟨r, hget, hstate | hpicked⟩ := h.pending id' hid'
    · exact ⟨r, hget, Or.inl hstate⟩
    · rcases hmem _ hpicked with rfl | hpicked
      · obtain ⟨r, hget, hstate⟩ := (hpending hid').2
        exact ⟨r, hget, Or.inl hstate⟩
      · exact ⟨r, hget, Or.inr hpicked⟩

/-- Some operations are no longer pending, none of them with a client that has just been launched. -/
theorem McpInv.erasePending {manager : ManagerState} (h : McpInv m s) (hlocked : s.own.locked = false)
    (hpending : ∀ id, { s.own with manager : McpWorld }.Pending id → s.own.Pending id)
    (hlaunches : ∀ r c, McpToken.won r .started ∈ m.2 → s.own.live.get? r.pending.operationId = some c →
      ∃ p, manager.pendingLaunches.get? r.pending.operationId = some p)
    (hclients : ∀ id, { s.own with manager : McpWorld }.Filed id → s.own.Filed id)
    (hworld : { s.own with manager : McpWorld }.Ok) : McpInv m { s with own := { s.own with manager } } := by
  have htouched : ∀ id, { s.own with manager : McpWorld }.Touched id → s.own.Touched id := by
    rintro id (hid | hid)
    · exact Or.inl (hpending id hid)
    · exact Or.inr hid
  refine ⟨{ h.counted with lock := ?_ }, fun t ht => ?_, fun c hc hid => h.charged c hc (hpending _ hid),
    fun id hid => h.pending id (hpending id hid), fun id hid => h.known id (htouched id hid),
    fun id hid => h.decided id (hid.imp_right (hclients id)), hworld⟩
  · have hlock := h.counted.lock
    rw [hlocked] at hlock
    simpa [hlocked] using hlock
  · have hok := h.token t ht
    cases t with
    | won request stage =>
        refine ⟨hok.1, ?_⟩
        cases stage with
        | ahead => exact ⟨hok.2.1, fun hf => hok.2.2 (hclients _ hf)⟩
        | started => exact ⟨fun c hc => hlaunches request c ht hc, fun hf => hok.2.2 (hclients _ hf)⟩
        | past => trivial
    | orphan id => exact ⟨hok.1, fun hid => hok.2 (hpending id hid)⟩
    | fresh id => exact ⟨hok.1, fun hid => hok.2 (htouched id hid)⟩
    | lock | launching | calling | wonCall | closing => exact hok

theorem McpInv.eraseLaunch {id : OperationId} (h : McpInv m s) (hlocked : s.own.locked = false)
    (hstarted : ∀ r, r.pending.operationId = id → McpToken.won r .started ∉ m.2) :
    McpInv m { s with own := s.own.setLaunches (s.own.manager.pendingLaunches.erase id) } := by
  refine h.erasePending hlocked (fun id' hid' => ?_) (fun r c hr hc => ?_) (fun id' hid' => hid')
    (h.world.eraseLaunch id)
  · exact hid'.imp_left fun ⟨p, hp⟩ => ⟨p, (Keyed.get?_erase_eq_some.mp hp).1⟩
  · obtain ⟨p, hp⟩ := (h.token _ hr).2.1 c hc
    exact ⟨p, Keyed.get?_erase_eq_some.mpr ⟨hp, fun heq => hstarted r heq hr⟩⟩

theorem McpInv.eraseCall {id : OperationId} (h : McpInv m s) (hlocked : s.own.locked = false) :
    McpInv m { s with own := s.own.setCalls (s.own.manager.pendingCalls.erase id) } := by
  refine h.erasePending hlocked (fun id' hid' => ?_) (fun r c hr hc => (h.token _ hr).2.1 c hc) (fun id' hid' => hid')
    (h.world.eraseCall id)
  exact hid'.imp_right fun ⟨q, hq⟩ => ⟨q, (Keyed.get?_erase_eq_some.mp hq).1⟩

/-- A request ends that is not charged with its operation. -/
theorem McpInv.endPending {t : McpToken} {launching : List LaunchRequest} {calling : List OperationId}
    (h : McpInv (m + tok t) s) (hnone : t.lock? = none ∧ t.close? = none ∧ t.won? = none ∧ t.fresh? = none ∧ t.orphan? = none)
    (hlaunching : picked McpToken.request? m = launching) (hcalling : picked McpToken.call? m = calling)
    (hresolving : ∀ id, { s.own with launching, calling : McpWorld }.Resolving id → s.own.Resolving id)
    (hworld : { s.own with launching, calling : McpWorld }.Ok) :
    McpInv m { s with own := { s.own with launching, calling } } := by
  obtain ⟨hlock, hclose, hwon, hfresh, horphan⟩ := hnone
  have htouched : ∀ id, { s.own with launching, calling : McpWorld }.Touched id → s.own.Touched id := by
    rintro id (hid | hid | hid)
    · exact Or.inl hid
    · exact Or.inr (Or.inl (hresolving id hid))
    · exact Or.inr (Or.inr hid)
  refine ⟨⟨?_, hlaunching, hcalling, ?_, ?_, ?_, ?_⟩, fun t' ht' => ?_, fun c hc hid => ?_, fun id hid => ?_,
    fun id hid => h.known id (htouched id hid), h.decided, hworld⟩
  · exact (picked_none hlock).symm.trans h.counted.lock
  · exact (picked_none hclose).symm.trans h.counted.closing
  · exact picked_none hwon ▸ h.counted.won
  · exact picked_none hfresh ▸ h.counted.fresh
  · have hapart := h.counted.apart
    rwa [picked_none hfresh, picked_none horphan] at hapart
  · have hok := h.of_tok ht'
    cases t' with
    | fresh id => exact ⟨hok.1, fun hid => hok.2 (htouched id hid)⟩
    | lock | launching | won | calling | wonCall | orphan | closing => exact hok
  · rw [← picked_none hwon]
    exact h.charged c (by simpa using hc) hid
  · rw [← picked_none hwon]
    exact h.pending id hid

theorem McpInv.endLaunch {r : LaunchRequest} (h : McpInv (m + tok (.launching r)) s) :
    McpInv m { s with own := { s.own with launching := s.own.launching.erase r } } := by
  refine h.endPending ⟨rfl, rfl, rfl, rfl, rfl⟩ ?_ ?_ (fun id hid => ?_) (h.world.endLaunch r)
  · have hlaunching : picked McpToken.request? m + {r} = s.own.launching :=
      (picked_some (f := McpToken.request?) rfl).symm.trans h.counted.launching
    rw [Multiset.add_singleton_eq_iff, Multiset.coe_erase] at hlaunching
    exact hlaunching.2
  · exact (picked_none rfl).symm.trans h.counted.calling
  · exact hid.imp_left fun ⟨r', hr', hid'⟩ => ⟨r', List.mem_of_mem_erase hr', hid'⟩

theorem McpInv.endCall {id : OperationId} (h : McpInv (m + tok (.calling id)) s) :
    McpInv m { s with own := { s.own with calling := s.own.calling.erase id } } := by
  refine h.endPending ⟨rfl, rfl, rfl, rfl, rfl⟩ ?_ ?_ (fun id' hid => ?_) { h.world with
    callLaunch := fun id' hid' => h.world.callLaunch id' (List.mem_of_mem_erase hid') }
  · exact (picked_none rfl).symm.trans h.counted.launching
  · have hcalling : picked McpToken.call? m + {id} = s.own.calling :=
      (picked_some (f := McpToken.call?) rfl).symm.trans h.counted.calling
    rw [Multiset.add_singleton_eq_iff, Multiset.coe_erase] at hcalling
    exact hcalling.2
  · exact hid.imp_right List.mem_of_mem_erase

theorem McpInv.won_ne {r r' : LaunchRequest} {stage stage' : ClientStage} (h : McpInv (m + tok (.won r stage)) s)
    (hr' : McpToken.won r' stage' ∈ m.2) : r'.pending.operationId ≠ r.pending.operationId := by
  intro heq
  exact not_mem_picked_of_nodup h.counted.won rfl (heq ▸ mem_picked_of hr' rfl)

/-- A request launches the client of an allowed launch. -/
theorem McpInv.spawn {r : LaunchRequest} (h : McpInv (m + tok (.won r .ahead)) s) (hallow : r.decision = .allowOnce)
    (hpending : ∃ p, s.own.manager.pendingLaunches.get? r.pending.operationId = some p)
    (hsettled : s.own.Settled r.pending.key) :
    McpInv (m + tok (.won r .started)) { s with own := (execMcp (.spawnClient
      ⟨r.pending.operationId, r.pending.key⟩) s.own).1 } := by
  have hmem : r ∈ s.own.launching := by
    have hpicked := mem_picked_of (f := McpToken.request?) (b := r) (mem_tok (m := m) (t := .won r .ahead)) rfl
    rwa [h.counted.launching] at hpicked
  obtain ⟨hdecided, hdead, hfiled⟩ := h.token _ mem_tok
  have hlive {id : OperationId} {c : LocalMcpClient}
      (hc : (s.own.live.put ⟨r.pending.operationId, r.pending.key⟩).get? id = some c) :
      id = r.pending.operationId ∧ c = ⟨r.pending.operationId, r.pending.key⟩ ∨
        id ≠ r.pending.operationId ∧ s.own.live.get? id = some c := by
    rw [Keyed.get?_put] at hc
    split_ifs at hc with hid
    · exact Or.inl ⟨hid, (Option.some.inj hc).symm⟩
    · exact Or.inr ⟨hid, hc⟩
  have hother {id : OperationId} (hid : id ≠ r.pending.operationId) :
      (s.own.live.put ⟨r.pending.operationId, r.pending.key⟩).get? id = s.own.live.get? id :=
    Keyed.get?_put_of_ne _ _ hid
  let own' : McpWorld := (execMcp (.spawnClient ⟨r.pending.operationId, r.pending.key⟩) s.own).1
  have hinv : McpInv (m + tok (.won r .past)) s := h.swap ⟨rfl, rfl, rfl, rfl, rfl, rfl, rfl⟩ ⟨hdecided, trivial⟩
  have hspawned : McpInv (m + tok (.won r .past)) { s with own := own' } := by
    refine ⟨{ hinv.counted with }, fun t ht => ?_, hinv.charged, hinv.pending, hinv.known, fun id hid => ?_,
      { h.world.spawn hmem hpending hsettled hfiled with }⟩
    · have hok := hinv.token t ht
      cases t with
      | won r' stage =>
          refine ⟨hok.1, ?_⟩
          rcases mem_add_tok.mp ht with ht | heq
          · have hne := h.won_ne ht
            cases stage with
            | ahead => exact ⟨(hother hne).trans (h.of_tok ht).2.1, hok.2.2⟩
            | started => exact ⟨fun c hc => (h.of_tok ht).2.1 c ((hother hne).symm.trans hc), hok.2.2⟩
            | past => trivial
          · obtain ⟨rfl, rfl⟩ := McpToken.won.inj heq
            trivial
      | closing target clients =>
          intro c hc hcovers
          rcases hlive hc with ⟨-, rfl⟩ | ⟨-, hc⟩
          · have hclosing := mem_picked_of (f := McpToken.close?) ht rfl
            rw [hinv.counted.closing] at hclosing
            obtain ⟨p, hp⟩ := hpending
            cases (h.world.taken r hmem hallow target hclosing hcovers).symm.trans hp
          · exact hok c hc hcovers
      | lock | launching | calling | wonCall | orphan | fresh => exact hok
    · rcases hid with ⟨c, hc⟩ | hid
      · rcases hlive hc with ⟨rfl, -⟩ | ⟨-, hc⟩
        · exact hdecided
        · exact h.decided id (Or.inl ⟨c, hc⟩)
      · exact h.decided id (Or.inr hid)
  exact hspawned.swap ⟨rfl, rfl, rfl, rfl, rfl, rfl, rfl⟩ ⟨hdecided, fun _ _ => hpending, hfiled⟩

/-- A client that nobody else has is gone. -/
theorem McpInv.dropClient {r : LaunchRequest} (h : McpInv (m + tok (.won r .started)) s) (id : OperationId) :
    McpInv (m + tok (.won r .past)) { s with own := (execMcp (.dropClient id) s.own).1 } := by
  have hpast : McpInv (m + tok (.won r .past)) s :=
    h.swap ⟨rfl, rfl, rfl, rfl, rfl, rfl, rfl⟩ ⟨(h.token _ mem_tok).1, trivial⟩
  have hkill := hpast.kill id
  exact { hkill with counted := { hkill.counted with }, token := hkill.token, world := { hkill.world with } }

/-- The client is put where there was none. -/
theorem McpInv.insertClient {r : LaunchRequest} (h : McpInv (m + tok (.won r .started)) s)
    (hlocked : s.own.locked = false) :
    McpInv (m + tok (.won r .past)) { s with
      own := s.own.setClients (s.own.manager.clients.put ⟨r.pending.operationId, r.pending.key⟩) } := by
  have hmem : r ∈ s.own.launching := by
    have hpicked := mem_picked_of (f := McpToken.request?) (b := r) (mem_tok (m := m) (t := .won r .started)) rfl
    rwa [h.counted.launching] at hpicked
  obtain ⟨hdecided, hstarted, hfiled⟩ := h.token _ mem_tok
  have hinv : McpInv (m + tok (.won r .past)) s := h.swap ⟨rfl, rfl, rfl, rfl, rfl, rfl, rfl⟩ ⟨hdecided, trivial⟩
  refine ⟨{ hinv.counted with lock := ?_ }, fun t ht => ?_, hinv.charged, hinv.pending, hinv.known, fun id hid => ?_,
    h.world.putClient fun c hc => ?_⟩
  · have hlock := hinv.counted.lock
    rw [hlocked] at hlock
    simpa [McpWorld.setClients, hlocked] using hlock
  · have hok := hinv.token t ht
    cases t with
    | won r' stage =>
        refine ⟨hok.1, ?_⟩
        rcases mem_add_tok.mp ht with ht | heq
        · have hne := h.won_ne ht
          cases stage with
          | ahead => exact ⟨hok.2.1, fun hf => hf.of_put.elim hne hok.2.2⟩
          | started => exact ⟨hok.2.1, fun hf => hf.of_put.elim hne hok.2.2⟩
          | past => trivial
        · obtain ⟨rfl, rfl⟩ := McpToken.won.inj heq
          trivial
    | lock | launching | calling | wonCall | orphan | fresh | closing => exact hok
  · rcases hid with hid | hid
    · exact h.decided id (Or.inl hid)
    · rcases hid.of_put with rfl | hid
      · exact hdecided
      · exact h.decided id (Or.inr hid)
  · obtain ⟨p, hp⟩ := hstarted c hc
    exact ⟨p, hp, by rw [h.world.request r hmem p hp]⟩

theorem McpInv.hold (h : McpInv m s) (id : OperationId) (count : Nat) :
    McpInv m { s with own := s.own.hold id count } :=
  { h with counted := { h.counted with }, token := h.token, world := { h.world with } }

theorem McpInv.release (h : McpInv m s) (id : OperationId) : McpInv m { s with own := s.own.release id } := by
  by_cases hlast : s.own.holders id ≤ 1
  · have hkill := (h.hold id (s.own.holders id - 1)).kill id
    simp only [McpWorld.release, if_pos hlast]
    exact hkill
  · simp only [McpWorld.release, if_neg hlast]
    exact h.hold id (s.own.holders id - 1)

theorem McpInv.closeClient (h : McpInv m s) (id : OperationId) (ended : Bool) :
    McpInv m { s with own := (execMcp (.closeClient id ended) s.own).1 } := by
  cases ended with
  | true => exact (h.kill id).release id
  | false => exact h.release id

/-- A client that ends in time, or that nobody else holds, no longer runs. -/
theorem live_closeClient {w : McpWorld} {id : OperationId} {ended : Bool} (h : ended = true ∨ w.holders id ≤ 1)
    {c : LocalMcpClient} (hc : (execMcp (.closeClient id ended) w).1.live.get? c.operationId = some c) :
    w.live.get? c.operationId = some c ∧ c.operationId ≠ id := by
  cases ended with
  | true =>
      simp only [execMcp, McpWorld.release, if_true] at hc
      split_ifs at hc
      · have hkilled := Keyed.get?_erase_eq_some.mp hc
        exact ⟨(Keyed.get?_erase_eq_some.mp hkilled.1).1, hkilled.2⟩
      · exact Keyed.get?_erase_eq_some.mp hc
  | false =>
      have hlast : w.holders id ≤ 1 := h.resolve_left Bool.false_ne_true
      simp only [execMcp, McpWorld.release, if_pos hlast, Bool.false_eq_true, if_false] at hc
      exact Keyed.get?_erase_eq_some.mp hc

/-- A close closes the next of its clients. -/
theorem McpInv.closeNext {target : CloseTarget} {client : LocalMcpClient} {clients : List LocalMcpClient} {ended : Bool}
    (h : McpInv (m + tok (.closing target (client :: clients))) s)
    (hended : ended = true ∨ s.own.holders client.operationId ≤ 1) :
    McpInv (m + tok (.closing target clients))
      { s with own := (execMcp (.closeClient client.operationId ended) s.own).1 } := by
  refine (h.closeClient client.operationId ended).swap ⟨rfl, rfl, rfl, rfl, rfl, rfl, rfl⟩ fun c hc hcovers => ?_
  obtain ⟨hlive, hne⟩ := live_closeClient hended hc
  rcases List.mem_cons.mp (h.token _ mem_tok c hlive hcovers) with rfl | hmem
  · exact absurd rfl hne
  · exact hmem

theorem McpInv.closeReturned {target : CloseTarget} (h : McpInv (m + tok (.closing target [])) s) :
    McpInv m { s with own := (execMcp (.closeReturned target) s.own).1 } := by
  have hclosed : ∀ c, s.own.live.get? c.operationId = some c → target.covers c.key.taskId = false := by
    intro c hc
    by_contra hcovers
    exact absurd (h.token _ mem_tok c hc (Bool.eq_true_of_not_eq_false hcovers)) List.not_mem_nil
  have hmem : target ∈ s.own.closing := by
    have hpicked := mem_picked_of (f := McpToken.close?) (b := target) (mem_tok (m := m) (t := .closing target [])) rfl
    rwa [h.counted.closing] at hpicked
  have htouched : ∀ id, (execMcp (.closeReturned target) s.own).1.Touched id → s.own.Touched id := by
    rintro id (hid | hid | hid)
    · exact Or.inl hid
    · exact Or.inr (Or.inl hid)
    rcases List.mem_append.mp hid with hid | hid
    · exact Or.inr (Or.inr hid)
    rcases List.mem_append.mp hid with hid | hid
    · obtain ⟨c, hc, rfl⟩ := List.mem_map.mp hid
      obtain ⟨hc, hcovers⟩ := List.mem_filter.mp hc
      exact absurd ((hclosed c (Keyed.mem_values.mp hc)).symm.trans hcovers) Bool.false_ne_true
    · obtain ⟨r, hr, rfl⟩ := List.mem_map.mp hid
      exact Or.inr (Or.inl (Or.inl ⟨r, (List.mem_filter.mp hr).1, rfl⟩))
  refine ⟨⟨?_, ?_, ?_, ?_, ?_, ?_, ?_⟩, fun t ht => ?_, fun c hc hid => ?_, fun id hid => ?_,
    fun id hid => h.known id (htouched id hid), h.decided, h.world.closeReturned hmem hclosed⟩
  · exact (picked_none rfl).symm.trans h.counted.lock
  · exact (picked_none rfl).symm.trans h.counted.launching
  · exact (picked_none rfl).symm.trans h.counted.calling
  · have hclosing : picked McpToken.close? m + {target} = s.own.closing :=
      (picked_some (f := McpToken.close?) rfl).symm.trans h.counted.closing
    rw [Multiset.add_singleton_eq_iff, Multiset.coe_erase] at hclosing
    exact hclosing.2
  · simpa using h.counted.won
  · simpa using h.counted.fresh
  · simpa using h.counted.apart
  · have hok := h.of_tok ht
    cases t with
    | fresh id => exact ⟨hok.1, fun hid => hok.2 (htouched id hid)⟩
    | lock | launching | won | calling | wonCall | orphan | closing => exact hok
  · have hwon := h.charged c (by simpa using hc) hid
    simpa using hwon
  · have hpending := h.pending id hid
    simpa using hpending

theorem McpInv.add_orphan {id : OperationId} (h : McpInv m s) (hknown : s.Known id) (hpending : ¬s.own.Pending id)
    (hfresh : McpToken.fresh id ∉ m.2) : McpInv (m + tok (.orphan id)) s where
  counted :=
    { lock := by simpa using h.counted.lock
      launching := by simpa using h.counted.launching
      calling := by simpa using h.counted.calling
      closing := by simpa using h.counted.closing
      won := by simpa using h.counted.won
      fresh := by simpa using h.counted.fresh
      apart := by
        rw [picked_none rfl, picked_some (f := McpToken.orphan?) rfl]
        refine Multiset.disjoint_add_right.mpr ⟨h.counted.apart, Multiset.disjoint_singleton.mpr ?_⟩
        exact fun hmem => hfresh (mem_picked_fresh.mp hmem) }
  token t ht := by
    rcases mem_add_tok.mp ht with ht | rfl
    · exact h.token t ht
    · exact ⟨hknown, hpending⟩
  charged c hc := by simpa using h.charged c (by simpa using hc)
  pending id' hid' := by simpa using h.pending id' hid'
  known := h.known
  decided := h.decided
  world := h.world

/-- What a close holds for the entries it has taken. -/
def orphans (ids : List OperationId) : McpTokens := (ids.map fun id => tok (.orphan id)).sum

theorem McpInv.add_orphans {ids : List OperationId} (h : McpInv m s) (hknown : ∀ id ∈ ids, s.Known id)
    (hpending : ∀ id ∈ ids, ¬s.own.Pending id) (hfresh : ∀ id ∈ ids, McpToken.fresh id ∉ m.2) :
    McpInv (m + orphans ids) s := by
  induction ids generalizing m with
  | nil =>
      rw [orphans, List.map_nil, List.sum_nil, add_zero]
      exact h
  | cons id ids ih =>
      rw [orphans, List.map_cons, List.sum_cons, ← add_assoc]
      simp only [List.forall_mem_cons] at hknown hpending hfresh
      refine ih (h.add_orphan hknown.1 hpending.1 hfresh.1) hknown.2 hpending.2 fun id' hid' hmem => ?_
      rcases mem_add_tok.mp hmem with hmem | heq
      · exact hfresh.2 id' hid' hmem
      · cases heq

theorem mem_pendingOf {w : McpWorld} {target : CloseTarget} {id : OperationId}
    (h : id ∈ w.manager.pendingOf target) :
    w.Pending id ∧ ((∃ p, w.manager.pendingLaunches.get? id = some p ∧ target.covers p.taskId = true) ∨
      ∃ q, w.manager.pendingCalls.get? id = some q ∧ target.covers q.taskId = true) := by
  rcases List.mem_append.mp h with h | h
  · obtain ⟨p, hp, rfl⟩ := List.mem_map.mp h
    obtain ⟨hp, hcovers⟩ := List.mem_filter.mp hp
    have hget := Keyed.mem_values.mp hp
    exact ⟨Or.inl ⟨p, hget⟩, Or.inl ⟨p, hget, hcovers⟩⟩
  · obtain ⟨q, hq, rfl⟩ := List.mem_map.mp h
    obtain ⟨hq, hcovers⟩ := List.mem_filter.mp hq
    have hget := Keyed.mem_values.mp hq
    exact ⟨Or.inr ⟨q, hget⟩, Or.inr ⟨q, hget, hcovers⟩⟩

theorem not_pending_closeTarget {w : McpWorld} (h : w.Ok) {target : CloseTarget} {id : OperationId}
    (hid : id ∈ w.manager.pendingOf target) : ¬{ w with manager := w.manager.closeTarget target : McpWorld }.Pending id := by
  have hkept {b : Bool} (hb : b = true) : ¬(!b) = true := by simp [hb]
  rintro (⟨p', hp'⟩ | ⟨q', hq'⟩)
  · obtain ⟨hp', hkeep⟩ := Keyed.get?_retain_eq_some.mp hp'
    rcases (mem_pendingOf hid).2 with ⟨p, hp, hcovers⟩ | ⟨q, hq, -⟩
    · obtain rfl := Option.some.inj (hp.symm.trans hp')
      exact hkept hcovers hkeep
    · exact h.separate id p' q hp' hq
  · obtain ⟨hq', hkeep⟩ := Keyed.get?_retain_eq_some.mp hq'
    rcases (mem_pendingOf hid).2 with ⟨p, hp, -⟩ | ⟨q, hq, hcovers⟩
    · exact h.separate id p q' hp hq'
    · obtain rfl := Option.some.inj (hq.symm.trans hq')
      exact hkept hcovers hkeep

theorem McpInv.add_closing {target : CloseTarget} {clients : List LocalMcpClient} (h : McpInv m s)
    (hclients : ∀ c, s.own.live.get? c.operationId = some c → target.covers c.key.taskId = true → c ∈ clients)
    (hworld : ({ s.own with closing := target :: s.own.closing } : McpWorld).Ok) :
    McpInv (m + tok (.closing target clients)) { s with own := { s.own with closing := target :: s.own.closing } } where
  counted :=
    { lock := by simpa using h.counted.lock
      launching := by simpa using h.counted.launching
      calling := by simpa using h.counted.calling
      closing := by
        rw [picked_some (f := McpToken.close?) rfl, h.counted.closing, add_comm]
        rfl
      won := by simpa using h.counted.won
      fresh := by simpa using h.counted.fresh
      apart := by simpa using h.counted.apart }
  token t ht := by
    rcases mem_add_tok.mp ht with ht | rfl
    · have hok := h.token t ht
      cases t with
      | lock | launching | won | calling | wonCall | orphan | fresh | closing => exact hok
    · exact hclients
  charged c hc hid := by
    have hwon := h.charged c (by simpa using hc) hid
    simpa using hwon
  pending id hid := by
    have hpending := h.pending id hid
    simpa using hpending
  known := h.known
  decided := h.decided
  world := hworld

/-- A close takes what there is of its tasks. -/
theorem McpInv.takeTask (h : McpInv m s) (hlocked : s.own.locked = false) {target : CloseTarget}
    (hsettled : ∀ c ∈ s.own.live.values, target.covers c.key.taskId = true → s.own.Settled c.key) :
    McpInv (m + (orphans (s.own.manager.pendingOf target) + tok (.closing target (s.own.manager.clientsOf target))))
      { s with own := (execMcp (.takeTask target) s.own).1 } := by
  have hclient : ∀ c, s.own.live.get? c.operationId = some c → target.covers c.key.taskId = true →
      s.own.manager.clients.get? c.key = some c := by
    intro c hc hcovers
    have hmem := Keyed.mem_values.mpr hc
    exact hsettled c hmem hcovers c hmem rfl
  have hworld := h.world.takeTask target
  have hclosed : McpInv m { s with own := { s.own with manager := s.own.manager.closeTarget target } } := by
    refine h.erasePending hlocked (fun id hid => ?_) (fun r c hr hc => ?_) (fun id hid => ?_) { hworld with
      taken := fun r hr hallow t ht => hworld.taken r hr hallow t (List.mem_cons_of_mem _ ht) }
    · rcases hid with ⟨p, hp⟩ | ⟨q, hq⟩
      · exact Or.inl ⟨p, (Keyed.get?_retain_eq_some.mp hp).1⟩
      · exact Or.inr ⟨q, (Keyed.get?_retain_eq_some.mp hq).1⟩
    · -- The client of a launch halfway is not of these tasks: else it would be in `clients` by now.
      obtain ⟨hstarted, hfiled⟩ := (h.token _ hr).2
      obtain ⟨p, hp⟩ := hstarted c hc
      have hid := Keyed.key_eq_of_get? hc
      have hcovers : target.covers c.key.taskId = false := by
        by_contra hcovers
        have hc' := hclient c (hid ▸ hc) (Bool.eq_true_of_not_eq_false hcovers)
        exact hfiled ⟨c, hc', hid⟩
      refine ⟨p, Keyed.get?_retain_eq_some.mpr ⟨hp, ?_⟩⟩
      have hkey : c.key.taskId = p.taskId := congrArg RuntimeKey.taskId (h.world.launchKey _ p c hp hc)
      rw [← hkey, hcovers]
      rfl
    · obtain ⟨c, hc, hid⟩ := hid
      exact ⟨c, (Keyed.get?_retain_eq_some.mp hc).1, hid⟩
  rw [← add_assoc]
  refine (hclosed.add_orphans (fun id hid => h.known id (Or.inl (mem_pendingOf hid).1))
    (fun id hid => not_pending_closeTarget h.world hid)
    fun id hid => h.not_fresh (Or.inl (mem_pendingOf hid).1)).add_closing (fun c hc hcovers => ?_) hworld
  exact List.mem_filter.mpr ⟨Keyed.mem_values.mpr (hclient c hc hcovers), hcovers⟩

end HyperTerm.Daemon
