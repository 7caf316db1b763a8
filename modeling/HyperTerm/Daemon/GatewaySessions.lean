import HyperTerm.Daemon.Attachments

/-!
# Closing a session

A hello that names no attachment of the gateway opens a terminal for its session, also when the session has one.
Closing a session looks for one attachment of it.

* `Tracked` : the gateway with a record of the terminals that were opened and closed;
* `HelloRun` : what hellos, and browsers that go away, make of it;
* `Owned` : a terminal that was opened is closed or has an attachment of its session; `HelloRun.owned`;
* `closeSession_complete_iff` : closing a session is complete exactly when the session has at most one attachment.
-/

namespace HyperTerm.Daemon
open HyperTerm.Protocol HyperTerm.Core HyperTerm.Lib

namespace GatewaySessions

structure Tracked where
  gateway : GatewayState
  /-- The terminals that were opened, each with the session it was opened for. -/
  opened : List (Nat × TerminalId)
  /-- The terminals whose closing succeeded. -/
  closed : List TerminalId

/-- What an operation adds to the record, on the way of a call for the session. -/
def note (sessionId : Nat) : (op : GatewayOp) → GatewayAns op → Tracked → Tracked
  | .openUserShell _ _ _, .ok terminalId, t => { t with opened := (sessionId, terminalId) :: t.opened }
  | .closeTerminal terminalId _, .ok _, t => { t with closed := terminalId :: t.closed }
  | _, _, t => t

def execTracked (sessionId : Nat) (op : GatewayOp) (t : Tracked) : Tracked × GatewayAns op :=
  (note sessionId op (execGateway op t.gateway).2 { t with gateway := (execGateway op t.gateway).1 },
    (execGateway op t.gateway).2)

/-- Ids are new: no terminal is opened under an id that is in use, and what is inserted under an id that is in use is the
attachment that has it. -/
def NewIds : GatewayOp → Tracked → Prop
  | .insert id a, t =>
      ∀ a', t.gateway.attachments id = some a' → a'.sessionId = a.sessionId ∧ a'.terminalId = a.terminalId
  | op, t => Possible op t.gateway

/-- What happens without the lock of the attachments. -/
inductive Meanwhile : Tracked → Tracked → Prop
  | unlocked (t : Tracked) {s : GatewayState} (h : Unlocked t.gateway s) : Meanwhile t { t with gateway := s }
  | closed (t : Tracked) (terminalId : TerminalId) (killed : Except String Unit) :
      Meanwhile t (execTracked 0 (.closeTerminal terminalId killed) t).1

/-- How a call for the session ends. -/
abbrev Ends {α : Type} (sessionId : Nat) (m : GatewayMethod α) : Tracked → Except ConnectionError α → Tracked → Prop :=
  m.Outcome (execTracked sessionId) NewIds Meanwhile

/-- The states that hellos lead to, in any order and with known, unknown and absent attachment ids. -/
inductive HelloRun : Tracked → Prop
  | start : HelloRun ⟨.start, [], []⟩
  | hello {t t' : Tracked} (h : HelloRun t) (env : GatewayEnv) (hello : TerminalHello)
      {r : Except ConnectionError ActiveAttachment} (hends : Ends hello.sessionId (activate env hello) t r t') : HelloRun t'
  | disconnected {t t' : Tracked} (h : HelloRun t) (active : ActiveAttachment) {r : Except ConnectionError Unit}
      (hends : Ends 0 (disconnect active) t r t') : HelloRun t'
  | meanwhile {t t' : Tracked} (h : HelloRun t) (hmeanwhile : Meanwhile t t') : HelloRun t'

/-! ## What a call relies on -/

/-- Only a terminal that is there has a lease. -/
def Held (t : Tracked) : Prop := ∀ terminalId l, t.gateway.leases terminalId = some l → t.gateway.sessions terminalId ≠ none

structure Around (t t' : Tracked) : Prop where
  quiet : Quiet t.gateway t'.gateway
  opened : t'.opened = t.opened
  closed : t.closed ⊆ t'.closed

theorem Around.refl (t : Tracked) : Around t t := ⟨.refl _, rfl, List.Subset.refl _⟩

theorem Around.trans (a b c : Tracked) (h : Around a b) (h' : Around b c) : Around a c :=
  ⟨.trans _ _ _ h.quiet h'.quiet, h'.opened.trans h.opened, List.Subset.trans h.closed h'.closed⟩

theorem closeTerminal_quiet (s : GatewayState) (terminalId : TerminalId) (killed : Except String Unit) :
    Quiet s (s.closeTerminal terminalId killed).1 := (Unlocked.closed s terminalId killed).quiet

theorem closeTerminal_around (sessionId : Nat) (t : Tracked) (terminalId : TerminalId) (killed : Except String Unit) :
    Around t (execTracked sessionId (.closeTerminal terminalId killed) t).1 := by
  have hquiet := closeTerminal_quiet t.gateway terminalId killed
  unfold execTracked
  dsimp only [execGateway]
  cases (t.gateway.closeTerminal terminalId killed).2 with
  | error e => exact ⟨hquiet, rfl, List.Subset.refl _⟩
  | ok _ => exact ⟨hquiet, rfl, List.subset_cons_self _ _⟩

theorem Meanwhile.around {t t' : Tracked} (h : Meanwhile t t') : Around t t' := by
  cases h with
  | unlocked h => exact ⟨h.quiet, rfl, List.Subset.refl _⟩
  | closed terminalId killed => exact closeTerminal_around 0 t terminalId killed

theorem Around.held {t t' : Tracked} (h : Around t t') (ht : Held t) : Held t' := by
  intro terminalId l hl
  exact (h.quiet.sessions_ne_none terminalId).mpr (ht terminalId l (h.quiet.leases terminalId l hl))

/-! ## Terminals that have an owner -/

/-- Some attachment of the session has the terminal. -/
def Attached (t : Tracked) (entry : Nat × TerminalId) : Prop :=
  ∃ id a, t.gateway.attachments id = some a ∧ a.sessionId = entry.1 ∧ a.terminalId = entry.2

/-- Every terminal that was opened is closed or attached, except for one that is on its way. -/
def OwnedBut (pending : Option (Nat × TerminalId)) (t : Tracked) : Prop :=
  ∀ entry ∈ t.opened, some entry = pending ∨ entry.2 ∈ t.closed ∨ Attached t entry

abbrev Owned : Tracked → Prop := OwnedBut none

theorem OwnedBut.of_attachments {t t' : Tracked} {pending : Option (Nat × TerminalId)} (h : OwnedBut pending t)
    (hattachments : t'.gateway.attachments = t.gateway.attachments) (hopened : t'.opened = t.opened)
    (hclosed : t.closed ⊆ t'.closed) : OwnedBut pending t' := by
  intro entry hentry
  rw [hopened] at hentry
  rcases h entry hentry with hpending | hmem | ⟨id, a, ha, howner⟩
  · exact .inl hpending
  · exact .inr (.inl (hclosed hmem))
  · exact .inr (.inr ⟨id, a, by rwa [hattachments], howner⟩)

theorem Around.ownedBut {t t' : Tracked} (h : Around t t') {pending : Option (Nat × TerminalId)}
    (ht : OwnedBut pending t) : OwnedBut pending t' := ht.of_attachments h.quiet.attachments h.opened h.closed

/-! ## Specifications of calls -/

/-- What holds after an answer, an error included. -/
def Result {ε α : Type} (stop : Tracked → Prop) (post : α → Tracked → Prop) : Except ε α → Tracked → Prop
  | .ok a, t => post a t
  | .error _, t => stop t

/-- From `pre`, a call for the session ends in `post`, or in an error with `stop`. -/
def Spec {α : Type} (sessionId : Nat) (stop pre : Tracked → Prop) (m : GatewayMethod α) (post : α → Tracked → Prop) :
    Prop := ∀ t, Held t → pre t → m.SafeIf (execTracked sessionId) NewIds Around Held (Result stop post) t

section Rules

variable {α β : Type} {sessionId : Nat} {stop pre : Tracked → Prop} {m : GatewayMethod α} {mid : α → Tracked → Prop}
  {f : α → GatewayMethod β} {post : β → Tracked → Prop}

theorem Spec.bind (hm : Spec sessionId stop pre m mid) (hf : ∀ a, Spec sessionId stop (mid a) (f a) post) :
    Spec sessionId stop pre (m >>= f) post :=
  fun t ht hpre => (hm t ht hpre).bind Around.refl (fun a t ht hmid => hf a t ht hmid) fun _ _ _ h => h

theorem Spec.weaken {pre' : Tracked → Prop} (h : Spec sessionId stop pre m mid) (hpre : ∀ t, pre' t → pre t) :
    Spec sessionId stop pre' m mid := fun t ht h' => h t ht (hpre t h')

theorem spec_ret {r : Except ConnectionError α} (h : ∀ t t', Around t t' → pre t → Result stop mid r t') :
    Spec sessionId stop pre (.ret r : GatewayMethod α) mid :=
  fun t _ hpre => Prog.safeIf_ret fun t' haround _ => h t t' haround hpre

theorem spec_perform {op : GatewayOp} {post : GatewayAns op → Tracked → Prop}
    (hpre : ∀ t t', Around t t' → pre t → pre t') (hpost : ∀ answer t t', Around t t' → post answer t → post answer t')
    (h : ∀ t, Held t → pre t → NewIds op t →
      Held (execTracked sessionId op t).1 ∧ post (execTracked sessionId op t).2 (execTracked sessionId op t).1) :
    Spec sessionId stop pre (Prog.perform op) post := by
  refine fun t _ hp => Prog.safeIf_perform fun t' haround ht' hallowed => ?_
  obtain ⟨hheld, hp'⟩ := h t' ht' (hpre t t' haround hp) hallowed
  exact ⟨hheld, fun u hu _ => hpost _ _ u hu hp'⟩

theorem spec_ensure {condition : Prop} [Decidable condition] {e : ConnectionError} :
    Spec sessionId Owned Owned (GatewayMethod.ensure condition e) fun _ => Owned := by
  refine spec_ret fun t t' haround ht => ?_
  split
  · exact haround.ownedBut ht
  · exact haround.ownedBut ht

theorem spec_lift {r : Except ConnectionError α} : Spec sessionId Owned Owned (GatewayMethod.lift r) fun _ => Owned := by
  refine spec_ret fun t t' haround ht => ?_
  cases r with
  | ok a => exact haround.ownedBut ht
  | error e => exact haround.ownedBut ht

theorem spec_pure {a : α} : Spec sessionId Owned Owned (pure a : GatewayMethod α) fun _ => Owned := spec_lift

theorem spec_daemon {m : GatewayMethod (Except TerminalRequestError α)} (hm : Spec sessionId Owned pre m (Result Owned mid))
    (hstable : ∀ a t t', Around t t' → mid a t → mid a t') : Spec sessionId Owned pre (GatewayMethod.daemon m) mid := by
  refine hm.bind fun r => spec_ret fun t t' haround ht => ?_
  cases r with
  | ok a => exact hstable a t t' haround ht
  | error e => exact Around.ownedBut haround ht

/-- An operation of the daemon that leaves every terminal owned, whatever it answers. -/
theorem spec_daemon_owned {m : GatewayMethod (Except TerminalRequestError α)} (hm : Spec sessionId Owned pre m fun _ => Owned) :
    Spec sessionId Owned pre (GatewayMethod.daemon m) fun _ => Owned := hm.bind fun _ => spec_lift

end Rules

/-! ## The operations -/

/-- An operation that neither opens a terminal nor removes an attachment. -/
def KeepsOwners : GatewayOp → Prop
  | .openUserShell _ _ _ | .remove _ => False
  | _ => True

/-- Sessions count further, and nothing else happens. -/
structure Counts (s s' : GatewayState) : Prop where
  attachments : s'.attachments = s.attachments
  sessions : ∀ terminalId, s.sessions terminalId ≠ none → s'.sessions terminalId ≠ none
  leases : s'.leases = s.leases

theorem counts_update {s : GatewayState} (terminalId : TerminalId) (session : TerminalSession) :
    Counts s { s with sessions := Function.update s.sessions terminalId (some session) } := by
  refine ⟨rfl, fun other hother => ?_, rfl⟩
  show Function.update s.sessions terminalId (some session) other ≠ none
  by_cases hsame : other = terminalId
  · rw [hsame, Function.update_self]
    exact Option.some_ne_none _
  · rwa [Function.update_of_ne hsame]

theorem counts_resizeSession (s : GatewayState) (terminalId : TerminalId) (resized : Except String Unit)
    (generation : Nat) (size : TerminalSize) : Counts s (s.resizeSession terminalId resized generation size).1 := by
  unfold GatewayState.resizeSession
  cases s.sessions terminalId with
  | none => exact ⟨rfl, fun _ h => h, rfl⟩
  | some session => exact counts_update terminalId _

theorem counts_writeTerminalInput (s : GatewayState) (clientId : ClientId) (terminalId : TerminalId)
    (leaseId : InputLeaseId) (sequence : Nat) (bytes : List UInt8) (written : Except String Unit) :
    Counts s (s.writeTerminalInput clientId terminalId leaseId sequence bytes written).1 := by
  unfold GatewayState.writeTerminalInput
  have hrefl : Counts s s := ⟨rfl, fun _ h => h, rfl⟩
  cases s.leases terminalId with
  | none => exact hrefl
  | some lease =>
      dsimp only
      split
      · exact hrefl
      · cases s.sessions terminalId with
        | none => exact hrefl
        | some session => exact counts_update terminalId _

theorem Counts.held {t : Tracked} {s : GatewayState} (h : Counts t.gateway s) (ht : Held t) :
    Held { t with gateway := s } := by
  intro terminalId l hl
  have hl' : s.leases terminalId = some l := hl
  rw [h.leases] at hl'
  exact h.sessions terminalId (ht terminalId l hl')

theorem held_acquireInputLease {t : Tracked} (ht : Held t) (terminalId : TerminalId) (clientId : ClientId)
    (leaseId : InputLeaseId) :
    Held { t with gateway := (t.gateway.acquireInputLease terminalId clientId leaseId).1 } ∧
      (t.gateway.acquireInputLease terminalId clientId leaseId).1.attachments = t.gateway.attachments := by
  unfold GatewayState.acquireInputLease
  cases hsession : t.gateway.sessions terminalId with
  | none => exact ⟨ht, rfl⟩
  | some session =>
      cases t.gateway.leases terminalId with
      | some existing =>
          dsimp only
          split
          · exact ⟨ht, rfl⟩
          · exact ⟨ht, rfl⟩
      | none =>
          refine ⟨fun other l hl => ?_, rfl⟩
          have hl' : Function.update t.gateway.leases terminalId _ other = some l := hl
          show t.gateway.sessions other ≠ none
          by_cases hsame : other = terminalId
          · rw [hsame, hsession]
            exact Option.some_ne_none _
          · rw [Function.update_of_ne hsame] at hl'
            exact ht other l hl'

theorem attached_of_insert {t : Tracked} {id : TerminalAttachmentId} {a : Attachment} (hnew : NewIds (.insert id a) t)
    {entry : Nat × TerminalId} (h : Attached t entry) :
    Attached { t with gateway := { t.gateway with attachments := Function.update t.gateway.attachments id (some a) } }
      entry := by
  obtain ⟨id', a', ha', hsession, hterminal⟩ := h
  by_cases hid : id' = id
  · subst hid
    obtain ⟨hsame, hsame'⟩ := hnew a' ha'
    exact ⟨id', a, Function.update_self .., hsame ▸ hsession, hsame' ▸ hterminal⟩
  · exact ⟨id', a', (Function.update_of_ne hid ..).trans ha', hsession, hterminal⟩

theorem spec_keepsOwners {sessionId : Nat} {op : GatewayOp} (hop : KeepsOwners op)
    (pending : Option (Nat × TerminalId)) :
    Spec sessionId Owned (OwnedBut pending) (Prog.perform op) fun _ => OwnedBut pending := by
  refine spec_perform (fun _ _ h => h.ownedBut) (fun _ _ _ h => h.ownedBut) fun t ht howned hnew => ?_
  cases op with
  | openUserShell => exact hop.elim
  | remove => exact hop.elim
  | attachment => exact ⟨ht, howned⟩
  | findSession => exact ⟨ht, howned⟩
  | terminalContext => exact ⟨ht, howned⟩
  | insert id a =>
      refine ⟨ht, fun entry hentry => ?_⟩
      rcases howned entry hentry with hpending | hclosed | hattached
      · exact .inl hpending
      · exact .inr (.inl hclosed)
      · exact .inr (.inr (attached_of_insert hnew hattached))
  | resizeSession terminalId resized generation size =>
      have hcounts := counts_resizeSession t.gateway terminalId resized generation size
      exact ⟨hcounts.held ht, howned.of_attachments hcounts.attachments rfl (List.Subset.refl _)⟩
  | acquireInputLease terminalId clientId leaseId =>
      obtain ⟨hheld, hattachments⟩ := held_acquireInputLease ht terminalId clientId leaseId
      exact ⟨hheld, howned.of_attachments hattachments rfl (List.Subset.refl _)⟩
  | writeTerminalInput clientId terminalId leaseId sequence bytes written =>
      have hcounts := counts_writeTerminalInput t.gateway clientId terminalId leaseId sequence bytes written
      exact ⟨hcounts.held ht, howned.of_attachments hcounts.attachments rfl (List.Subset.refl _)⟩
  | closeTerminal terminalId killed =>
      have haround := closeTerminal_around sessionId t terminalId killed
      exact ⟨haround.held ht, haround.ownedBut howned⟩

/-! ## Opening a terminal -/

/-- The terminal was opened for the session, and nobody has a lease on it. -/
def Opened (sessionId : Nat) (terminalId : TerminalId) (t : Tracked) : Prop :=
  OwnedBut (some (sessionId, terminalId)) t ∧ t.gateway.sessions terminalId ≠ none ∧ t.gateway.leases terminalId = none

theorem Around.opened_opened {t t' : Tracked} {sessionId : Nat} {terminalId : TerminalId} (h : Around t t')
    (ht : Opened sessionId terminalId t) : Opened sessionId terminalId t' := by
  obtain ⟨howned, hsession, hlease⟩ := ht
  refine ⟨h.ownedBut howned, (h.quiet.sessions_ne_none terminalId).mpr hsession, ?_⟩
  cases hleases : t'.gateway.leases terminalId with
  | none => rfl
  | some l =>
      rw [h.quiet.leases terminalId l hleases] at hlease
      cases hlease

theorem spec_openUserShell {sessionId : Nat} (terminalId : TerminalId) (size : TerminalSize) (spawned : ShellSpawn) :
    Spec sessionId Owned Owned (Prog.perform (GatewayOp.openUserShell terminalId size spawned))
      (Result Owned (Opened sessionId)) := by
  refine spec_perform (fun _ _ h => h.ownedBut) (fun answer t t' h => ?_) fun t ht howned hnew => ?_
  · cases answer with
    | ok a => exact h.opened_opened
    | error e => exact Around.ownedBut h
  · have hnone : t.gateway.sessions terminalId = none := hnew
    have hlease : t.gateway.leases terminalId = none := by
      cases hl : t.gateway.leases terminalId with
      | none => rfl
      | some l => exact absurd hnone (ht terminalId l hl)
    have hcounts := counts_update (s := t.gateway) terminalId .new
    have hheld := hcounts.held ht
    dsimp only [execTracked, execGateway, GatewayState.openUserShell]
    cases hsize : TerminalSize.validate size with
    | error message => exact ⟨ht, howned⟩
    | ok _ =>
        cases spawned with
        | failed message => exact ⟨ht, howned⟩
        | unmonitored message => exact ⟨hheld, howned.of_attachments rfl rfl (List.Subset.refl _)⟩
        | opened =>
            refine ⟨hheld, fun entry hentry => ?_, ?_, hlease⟩
            · rcases List.mem_cons.mp hentry with rfl | hentry
              · exact .inl rfl
              · exact .inr ((howned entry hentry).resolve_left (by simp))
            · show Function.update t.gateway.sessions terminalId _ terminalId ≠ none
              rw [Function.update_self]
              exact Option.some_ne_none _

theorem spec_acquire_opened {sessionId : Nat} (terminalId : TerminalId) (clientId : ClientId) (leaseId : InputLeaseId) :
    Spec sessionId Owned (Opened sessionId terminalId) (Prog.perform (GatewayOp.acquireInputLease terminalId clientId leaseId))
      fun r t => (∃ lease, r = .ok lease) ∧ OwnedBut (some (sessionId, terminalId)) t := by
  refine spec_perform (fun _ _ h => h.opened_opened) (fun _ _ _ h hpost => ⟨hpost.1, h.ownedBut hpost.2⟩)
    fun t ht hopened _ => ?_
  obtain ⟨hheld, hattachments⟩ := held_acquireInputLease ht terminalId clientId leaseId
  obtain ⟨howned, hsession, hlease⟩ := hopened
  refine ⟨hheld, ?_, howned.of_attachments hattachments rfl (List.Subset.refl _)⟩
  show ∃ lease, (t.gateway.acquireInputLease terminalId clientId leaseId).2 = .ok lease
  unfold GatewayState.acquireInputLease
  cases hs : t.gateway.sessions terminalId with
  | none => exact absurd hs hsession
  | some session =>
      rw [hlease]
      exact ⟨_, rfl⟩

theorem spec_insert_opened {sessionId : Nat} {terminalId : TerminalId} (id : TerminalAttachmentId) {a : Attachment}
    (hsession : a.sessionId = sessionId) (hterminal : a.terminalId = terminalId) :
    Spec sessionId Owned (OwnedBut (some (sessionId, terminalId))) (GatewayMethod.insert id a) fun _ => Owned := by
  refine spec_perform (fun _ _ h => h.ownedBut) (fun _ _ _ h => h.ownedBut) fun t ht howned hnew => ?_
  refine ⟨ht, fun entry hentry => ?_⟩
  rcases howned entry hentry with hpending | hclosed | hattached
  · obtain rfl := Option.some.inj hpending
    exact .inr (.inr ⟨id, a, Function.update_self .., hsession, hterminal⟩)
  · exact .inr (.inl hclosed)
  · exact .inr (.inr (attached_of_insert hnew hattached))

theorem spec_openAttachment (env : GatewayEnv) (hello : TerminalHello) :
    Spec hello.sessionId Owned Owned (openAttachment env hello) fun _ => Owned := by
  unfold openAttachment
  refine (spec_daemon (spec_openUserShell env.terminalId hello.size env.spawned) fun _ _ _ h => h.opened_opened).bind
    fun terminalId => (spec_acquire_opened terminalId env.clientId env.leaseId).bind fun lease => ?_
  cases lease with
  | error e =>
      intro t _ hpre
      obtain ⟨⟨lease, hlease⟩, -⟩ := hpre
      cases hlease
  | ok lease => exact ((spec_insert_opened env.attachmentId rfl rfl).weaken fun _ h => h.2).bind fun _ => spec_pure

theorem spec_resizeTerminal {sessionId : Nat} (env : GatewayEnv) (terminalId : TerminalId) (generation : Nat)
    (size : TerminalSize) :
    Spec sessionId Owned Owned (resizeTerminal env terminalId generation size) fun _ => Owned := by
  refine (spec_daemon_owned (spec_keepsOwners (by exact trivial) none)).bind fun _ =>
    (spec_daemon_owned (spec_keepsOwners (by exact trivial) none)).bind fun context => ?_
  cases context with
  | operation taskId operationId => exact spec_lift
  | userShell => exact spec_pure

theorem spec_reactivate {sessionId : Nat} (env : GatewayEnv) (hello : TerminalHello) (id : TerminalAttachmentId)
    (a : Attachment) : Spec sessionId Owned Owned (reactivate env hello id a) fun _ => Owned := by
  refine spec_ensure.bind fun _ => spec_ensure.bind fun _ => (spec_resizeTerminal env _ _ _).bind fun _ =>
    (spec_daemon_owned (spec_keepsOwners (by exact trivial) none)).bind fun lease => ?_
  exact (spec_keepsOwners (by exact trivial) none).bind fun _ => spec_pure

theorem spec_activate (env : GatewayEnv) (hello : TerminalHello) :
    Spec hello.sessionId Owned Owned (activate env hello) fun _ => Owned := by
  refine spec_lift.bind fun _ => spec_ensure.bind fun _ => ?_
  cases hello.attachmentId with
  | none => exact spec_openAttachment env hello
  | some id =>
      refine (spec_keepsOwners (by exact trivial) none).bind fun found => ?_
      cases found with
      | none => exact spec_openAttachment env hello
      | some a => exact spec_reactivate env hello id a

theorem spec_disconnect (active : ActiveAttachment) : Spec 0 Owned Owned (disconnect active) fun _ => Owned := by
  refine (spec_keepsOwners (by exact trivial) none).bind fun found => ?_
  cases found with
  | none => exact spec_pure
  | some a =>
      show Spec 0 Owned Owned (if _ then _ else _) _
      split
      · exact spec_keepsOwners (by exact trivial) none
      · exact spec_pure

/-- Whatever the hellos were, a terminal that was opened is closed or attached. -/
theorem HelloRun.owned {t : Tracked} (h : HelloRun t) : Held t ∧ Owned t := by
  have houtside (t t' : Tracked) (h : Meanwhile t t') (ht : Held t) : Held t' ∧ Around t t' :=
    ⟨h.around.held ht, h.around⟩
  have hresult {α : Type} {r : Except ConnectionError α} {t : Tracked} (h : Result Owned (fun _ => Owned) r t) : Owned t := by
    cases r with
    | ok a => exact h
    | error e => exact h
  induction h with
  | start => exact ⟨fun _ _ h => (nomatch h), fun _ h => (nomatch h)⟩
  | hello _ env hello hends ih =>
      obtain ⟨hheld, howned⟩ := (spec_activate env hello _ ih.1 ih.2).outcome Around.refl Around.trans houtside ih.1 hends
      exact ⟨hheld, hresult howned⟩
  | disconnected _ active hends ih =>
      obtain ⟨hheld, howned⟩ := (spec_disconnect active _ ih.1 ih.2).outcome Around.refl Around.trans houtside ih.1 hends
      exact ⟨hheld, hresult howned⟩
  | meanwhile _ hmeanwhile ih => exact ⟨hmeanwhile.around.held ih.1, hmeanwhile.around.ownedBut ih.2⟩

/-! ## Closing -/

section Close

variable {found : TerminalAttachmentId → Option Attachment} {sessionId : Nat}

/-- The terminals that were opened, apart from the closed ones, have these attachments. -/
def OwnedIn (found : TerminalAttachmentId → Option Attachment) (t : Tracked) : Prop :=
  ∀ entry ∈ t.opened, entry.2 ∈ t.closed ∨ ∃ id a, found id = some a ∧ a.sessionId = entry.1 ∧ a.terminalId = entry.2

theorem Around.ownedIn {t t' : Tracked} (h : Around t t') (ht : OwnedIn found t) : OwnedIn found t' := by
  intro entry hentry
  rw [h.opened] at hentry
  rcases ht entry hentry with hclosed | hfound
  · exact .inl (h.closed hclosed)
  · exact .inr hfound

/-- What the search of the attachments found for the session. -/
def Searched (found : TerminalAttachmentId → Option Attachment) (sessionId : Nat) :
    Option (TerminalAttachmentId × TerminalId) → Prop
  | none => ∀ id a, found id = some a → a.sessionId ≠ sessionId
  | some (id, terminalId) => ∃ a, found id = some a ∧ a.sessionId = sessionId ∧ a.terminalId = terminalId

/-- What is left after the search and the closing of what it found. -/
def Left (found : TerminalAttachmentId → Option Attachment) (t : Tracked) :
    Option (TerminalAttachmentId × TerminalId) → Prop
  | none => t.gateway.attachments = found
  | some (id, terminalId) => t.gateway.attachments = Function.update found id none ∧ terminalId ∈ t.closed

theorem searched_of_find {order : List TerminalAttachmentId} (horder : ∀ id, found id ≠ none → id ∈ order) :
    Searched found sessionId ((order.find? fun id => (found id).any fun a => a.sessionId = sessionId).bind fun id =>
      (found id).map fun a => (id, a.terminalId)) := by
  cases hfind : order.find? fun id => (found id).any fun a => a.sessionId = sessionId with
  | none =>
      intro id a ha hsession
      have hmem := horder id (by rw [ha]; exact Option.some_ne_none a)
      refine List.find?_eq_none.mp hfind id hmem ?_
      rw [ha]
      exact decide_eq_true hsession
  | some id =>
      have hmatch := List.find?_some hfind
      cases ha : found id with
      | none =>
          rw [ha] at hmatch
          cases hmatch
      | some a =>
          rw [ha] at hmatch
          rw [Option.bind_some, ha]
          exact ⟨a, ha, of_decide_eq_true hmatch, rfl⟩

theorem spec_closeSession (env : GatewayEnv) (order : List TerminalAttachmentId) :
    Spec sessionId (fun _ => True) (fun t => t.gateway.attachments = found ∧ OwnedIn found t)
      (closeSession env sessionId order) fun _ t => OwnedIn found t ∧ ∃ searched, Searched found sessionId searched ∧
        Left found t searched := by
  have hstart (t t' : Tracked) (h : Around t t') (ht : t.gateway.attachments = found ∧ OwnedIn found t) :
      t'.gateway.attachments = found ∧ OwnedIn found t' :=
    ⟨h.quiet.attachments.trans ht.1, h.ownedIn ht.2⟩
  have hsearch : Spec sessionId (fun _ => True) (fun t => t.gateway.attachments = found ∧ OwnedIn found t)
      (Prog.perform (GatewayOp.findSession sessionId order)) fun searched t =>
        (t.gateway.attachments = found ∧ OwnedIn found t) ∧ Searched found sessionId searched := by
    refine spec_perform hstart (fun _ t t' h ht => ⟨hstart t t' h ht.1, ht.2⟩) fun t ht hpre hnew => ?_
    refine ⟨ht, hpre, ?_⟩
    have horder : ∀ id, t.gateway.attachments id ≠ none → id ∈ order := hnew
    show Searched found sessionId ((order.find? fun id => (t.gateway.attachments id).any fun a => a.sessionId = sessionId).bind
      fun id => (t.gateway.attachments id).map fun a => (id, a.terminalId))
    rw [hpre.1] at horder ⊢
    exact searched_of_find horder
  refine hsearch.bind fun searched => ?_
  cases searched with
  | none =>
      refine spec_ret fun t t' h ht => ?_
      obtain ⟨hfound, howned⟩ := hstart t t' h ht.1
      exact ⟨howned, none, ht.2, hfound⟩
  | some searched =>
      obtain ⟨id, terminalId⟩ := searched
      have hclose : Spec sessionId (fun _ => True)
          (fun t => (t.gateway.attachments = found ∧ OwnedIn found t) ∧ Searched found sessionId (some (id, terminalId)))
          (Prog.perform (GatewayOp.closeTerminal terminalId env.killed)) fun result t =>
            (t.gateway.attachments = found ∧ OwnedIn found t) ∧ (result = .ok () → terminalId ∈ t.closed) ∧
              Searched found sessionId (some (id, terminalId)) := by
        refine spec_perform (fun t t' h ht => ⟨hstart t t' h ht.1, ht.2⟩)
          (fun _ t t' h ht => ⟨hstart t t' h ht.1, fun hok => h.closed (ht.2.1 hok), ht.2.2⟩) fun t ht hpre _ => ?_
        have haround := closeTerminal_around sessionId t terminalId env.killed
        refine ⟨haround.held ht, hstart _ _ haround hpre.1, fun hok => ?_, hpre.2⟩
        have hok' : (t.gateway.closeTerminal terminalId env.killed).2 = .ok () := hok
        dsimp only [execTracked, execGateway]
        rw [hok']
        exact List.mem_cons_self
      refine hclose.bind fun result => ?_
      have hremove : Spec sessionId (fun _ => True)
          (fun t => (t.gateway.attachments = found ∧ OwnedIn found t) ∧ (result = .ok () → terminalId ∈ t.closed) ∧
            Searched found sessionId (some (id, terminalId)))
          (Prog.perform (GatewayOp.remove id)) fun _ t => (t.gateway.attachments = Function.update found id none ∧
            OwnedIn found t) ∧ (result = .ok () → terminalId ∈ t.closed) ∧
              Searched found sessionId (some (id, terminalId)) := by
        refine spec_perform (fun t t' h ht => ⟨hstart t t' h ht.1, fun hok => h.closed (ht.2.1 hok), ht.2.2⟩)
          (fun _ t t' h ht => ⟨⟨h.quiet.attachments.trans ht.1.1, h.ownedIn ht.1.2⟩, fun hok => h.closed (ht.2.1 hok),
            ht.2.2⟩) fun t ht hpre _ => ?_
        refine ⟨ht, ⟨?_, hpre.1.2⟩, hpre.2⟩
        show Function.update t.gateway.attachments id none = _
        rw [hpre.1.1]
      refine hremove.bind fun _ => spec_ret fun t t' h ht => ?_
      cases result with
      | error e => exact trivial
      | ok _ =>
          obtain ⟨⟨hfound, howned⟩, hclosed, hsearched⟩ := ht
          exact ⟨h.ownedIn howned, _, hsearched, h.quiet.attachments.trans hfound, h.closed (hclosed rfl)⟩

/-- No attachment of the session is left, and its terminals are closed. -/
def Complete (sessionId : Nat) (t : Tracked) : Prop :=
  (∀ id a, t.gateway.attachments id = some a → a.sessionId ≠ sessionId) ∧
    ∀ terminalId, (sessionId, terminalId) ∈ t.opened → terminalId ∈ t.closed

/-- The session has one attachment or none. -/
def AtMostOne (sessionId : Nat) (t : Tracked) : Prop :=
  ∀ id id' a a', t.gateway.attachments id = some a → t.gateway.attachments id' = some a' →
    a.sessionId = sessionId → a'.sessionId = sessionId → id = id'

/-- **Closing a session.** After any hellos, a session that was closed without an error is closed completely exactly
when it had at most one attachment. -/
theorem closeSession_complete_iff {t t' : Tracked} (hrun : HelloRun t) (sessionId : Nat) (env : GatewayEnv)
    (order : List TerminalAttachmentId) (hclose : Ends sessionId (closeSession env sessionId order) t (.ok ()) t') :
    Complete sessionId t' ↔ AtMostOne sessionId t := by
  obtain ⟨hheld, howned⟩ := hrun.owned
  have hownedIn : OwnedIn t.gateway.attachments t := fun entry hentry => (howned entry hentry).resolve_left (by simp)
  obtain ⟨-, howned', searched, hsearched, hleft⟩ := (spec_closeSession env order t hheld ⟨rfl, hownedIn⟩).outcome
    Around.refl Around.trans (fun t t' h ht => ⟨h.around.held ht, h.around⟩) hheld hclose
  cases searched with
  | none =>
      have hnone : ∀ id a, t.gateway.attachments id = some a → a.sessionId ≠ sessionId := hsearched
      have hsame : t'.gateway.attachments = t.gateway.attachments := hleft
      constructor
      · intro _ id id' a a' ha _ hsession
        exact absurd hsession (hnone id a ha)
      · intro _
        refine ⟨fun id a ha => hnone id a (hsame ▸ ha), fun terminalId hopened => ?_⟩
        rcases howned' _ hopened with hclosed | ⟨id, a, ha, hsession, -⟩
        · exact hclosed
        · exact absurd hsession (hnone id a ha)
  | some searched =>
      obtain ⟨id, terminalId⟩ := searched
      obtain ⟨a, ha, hsession, hterminal⟩ := hsearched
      obtain ⟨hremoved, hclosed⟩ := hleft
      constructor
      · rintro ⟨hnone, -⟩
        have honly (id' : TerminalAttachmentId) (a' : Attachment) (ha' : t.gateway.attachments id' = some a')
            (hsession' : a'.sessionId = sessionId) : id' = id := by
          by_contra hne
          refine hnone id' a' ?_ hsession'
          rw [hremoved, Function.update_of_ne hne]
          exact ha'
        intro id₁ id₂ a₁ a₂ h₁ h₂ hs₁ hs₂
        rw [honly id₁ a₁ h₁ hs₁, honly id₂ a₂ h₂ hs₂]
      · intro hone
        refine ⟨fun id' a' ha' hsession' => ?_, fun terminalId' hopened => ?_⟩
        · rw [hremoved] at ha'
          by_cases hid : id' = id
          · rw [hid, Function.update_self] at ha'
            cases ha'
          · rw [Function.update_of_ne hid] at ha'
            exact hid (hone id' id a' a ha' ha hsession' hsession)
        · rcases howned' _ hopened with hclosed' | ⟨id', a', ha', hsession', hterminal'⟩
          · exact hclosed'
          · obtain rfl := hone id' id a' a ha' ha hsession' hsession
            obtain rfl := Option.some.inj (ha.symm.trans ha')
            obtain rfl : terminalId = terminalId' := hterminal.symm.trans hterminal'
            exact hclosed

end Close

/-! ## Two hellos for one session -/

def secondEnv : GatewayEnv := ⟨2, ⟨2⟩, ⟨2⟩, ⟨2⟩, ⟨2⟩, .ok (), .ok (), .ok (), .ok (), .opened⟩

/-- Session 1 after a hello without an attachment. -/
def oneTerminal : Tracked := ((activate browserEnv (browserHello none)).run (execTracked 1) ⟨.start, [], []⟩).1

def twoTerminals : Tracked := ((activate secondEnv (browserHello none)).run (execTracked 1) oneTerminal).1

def closedOne (t : Tracked) : Tracked := ((closeSession browserEnv 1 [⟨1⟩, ⟨2⟩]).run (execTracked 1) t).1

theorem helloRun_oneTerminal : HelloRun oneTerminal := by
  refine .hello .start browserEnv (browserHello none) (Monitor.outcome_run ?_)
  exact ⟨rfl, trivial, fun _ h => (nomatch h), trivial⟩

theorem attachments_oneTerminal (id : TerminalAttachmentId) (h : oneTerminal.gateway.attachments id ≠ none) : id = ⟨1⟩ := by
  by_contra hid
  exact h (Function.update_of_ne hid _ _)

theorem closeSession_complete_one : Complete 1 (closedOne oneTerminal) := by
  have hends : Ends 1 (closeSession browserEnv 1 [⟨1⟩, ⟨2⟩]) oneTerminal (.ok ()) (closedOne oneTerminal) := by
    refine Monitor.outcome_run ⟨fun id hid => ?_, trivial, trivial, trivial⟩
    rw [attachments_oneTerminal id hid]
    exact List.mem_cons_self
  refine (closeSession_complete_iff helloRun_oneTerminal 1 browserEnv _ hends).mpr fun id id' a a' ha ha' _ _ => ?_
  rw [attachments_oneTerminal id (by rw [ha]; exact Option.some_ne_none a),
    attachments_oneTerminal id' (by rw [ha']; exact Option.some_ne_none a')]

/-- A second hello without an attachment opens a second terminal, and closing the session leaves one of the two. -/
theorem second_terminal_left :
    ¬∀ (t t' : Tracked) (sessionId : Nat) (env : GatewayEnv) (order : List TerminalAttachmentId), HelloRun t →
      Ends sessionId (closeSession env sessionId order) t (.ok ()) t' → Complete sessionId t' := by
  intro hcomplete
  have hrun : HelloRun twoTerminals := by
    refine .hello helloRun_oneTerminal secondEnv (browserHello none) (Monitor.outcome_run ?_)
    exact ⟨rfl, trivial, fun _ h => (nomatch h), trivial⟩
  have hends : Ends 1 (closeSession browserEnv 1 [⟨1⟩, ⟨2⟩]) twoTerminals (.ok ()) (closedOne twoTerminals) := by
    refine Monitor.outcome_run ⟨fun id hid => ?_, trivial, trivial, trivial⟩
    by_cases htwo : id = ⟨2⟩
    · rw [htwo]
      exact List.mem_cons_of_mem _ List.mem_cons_self
    · have hone : twoTerminals.gateway.attachments id = oneTerminal.gateway.attachments id := Function.update_of_ne htwo _ _
      rw [hone] at hid
      rw [attachments_oneTerminal id hid]
      exact List.mem_cons_self
  exact (hcomplete _ _ 1 _ _ hrun hends).1 ⟨2⟩ _ rfl rfl

end GatewaySessions

end HyperTerm.Daemon
