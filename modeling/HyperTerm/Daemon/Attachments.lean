import HyperTerm.Daemon.WebGateway

/-!
# The gateway's attachments keep in step with their sessions

* `Tidy` : what holds at any moment, also while a method runs;
* `Quiet` : what may happen to the daemon without the lock of the attachments;
* `Spec` : a method keeps `Tidy`, ends in its postcondition, and fails with everything in lockstep;
* `attachments_lockstep` : as long as a terminal's exit is not finalized before its context is looked up, every
  attachment can reconnect.
-/

namespace HyperTerm.Daemon
open HyperTerm.Protocol HyperTerm.Core HyperTerm.Lib

/-! ## The invariant and the background -/

def counters (session : TerminalSession) : Nat × Nat := (session.resizeGeneration, session.lastInputSequence)

/-- The session of the terminal has accepted these last numbers. -/
def Counted (s : GatewayState) (terminalId : TerminalId) (generation input : Nat) : Prop :=
  (s.sessions terminalId).map counters = some (generation, input)

structure Tidy (s : GatewayState) : Prop where
  attached : ∀ id a, s.attachments id = some a → s.sessions a.terminalId ≠ none
  distinct : ∀ id id' a a', s.attachments id = some a → s.attachments id' = some a' →
    a.terminalId = a'.terminalId → id = id'
  leases : ∀ terminalId l, s.leases terminalId = some l → s.sessions terminalId ≠ none ∧
    ∀ id a, s.attachments id = some a → a.terminalId = terminalId → l.clientId = a.clientId
  shells : ∀ terminalId context, s.contexts terminalId = some context → context = .userShell

structure Quiet (s s' : GatewayState) : Prop where
  attachments : s'.attachments = s.attachments
  counters : ∀ terminalId, (s'.sessions terminalId).map counters = (s.sessions terminalId).map counters
  contexts : ∀ terminalId context, s'.contexts terminalId = some context → s.contexts terminalId = some context
  leases : ∀ terminalId l, s'.leases terminalId = some l → s.leases terminalId = some l

theorem Quiet.refl (s : GatewayState) : Quiet s s := ⟨rfl, fun _ => rfl, fun _ _ h => h, fun _ _ h => h⟩

theorem Quiet.trans (a b c : GatewayState) (h₁ : Quiet a b) (h₂ : Quiet b c) : Quiet a c where
  attachments := h₂.attachments.trans h₁.attachments
  counters := fun t => (h₂.counters t).trans (h₁.counters t)
  contexts := fun t x h => h₁.contexts t x (h₂.contexts t x h)
  leases := fun t l h => h₁.leases t l (h₂.leases t l h)

theorem Quiet.sessions_ne_none {s s' : GatewayState} (h : Quiet s s') (t : TerminalId) :
    s'.sessions t ≠ none ↔ s.sessions t ≠ none := by
  have := h.counters t
  cases hs : s.sessions t <;> cases hs' : s'.sessions t <;> simp_all

/-- `Tidy` is not lost when terminals are added and contexts and leases removed. -/
theorem Tidy.of_attachments_eq {s s' : GatewayState} (hs : Tidy s) (hattachments : s'.attachments = s.attachments)
    (hsessions : ∀ t, s.sessions t ≠ none → s'.sessions t ≠ none)
    (hcontexts : ∀ t context, s'.contexts t = some context → s.contexts t = some context ∨ context = .userShell)
    (hleases : ∀ t l, s'.leases t = some l → s.leases t = some l) : Tidy s' where
  attached := fun id a ha => hsessions _ (hs.attached id a (hattachments ▸ ha))
  distinct := fun id id' a a' ha ha' => hs.distinct id id' a a' (hattachments ▸ ha) (hattachments ▸ ha')
  leases := fun t l hl => by
    obtain ⟨hsession, hclients⟩ := hs.leases t l (hleases t l hl)
    exact ⟨hsessions t hsession, fun id a ha => hclients id a (hattachments ▸ ha)⟩
  shells := fun t context hcontext => (hcontexts t context hcontext).elim (hs.shells t context) id

theorem Quiet.tidy {s s' : GatewayState} (h : Quiet s s') (hs : Tidy s) : Tidy s' :=
  hs.of_attachments_eq h.attachments (fun t => (h.sessions_ne_none t).mpr)
    (fun t context hcontext => Or.inl (h.contexts t context hcontext)) h.leases

/-- What happens without the lock of the attachments is quiet. -/
theorem Unlocked.quiet {s s' : GatewayState} (h : Unlocked s s') : Quiet s s' := by
  cases h with
  | exited terminalId exit =>
      refine ⟨rfl, fun t => ?_, fun _ _ h => h, fun _ _ h => h⟩
      show ((s.exited terminalId exit).sessions t).map counters = _
      by_cases ht : t = terminalId
      · subst ht
        simp only [GatewayState.exited, Function.update_self, Option.map_map]
        rfl
      · simp only [GatewayState.exited, Function.update_of_ne ht]
  | finalized terminalId =>
      refine ⟨rfl, fun _ => rfl, fun t x h => ?_, fun t l h => ?_⟩
      · by_cases ht : t = terminalId
        · simp [GatewayState.finalizeTerminal, ht] at h
        · simpa [GatewayState.finalizeTerminal, Function.update_of_ne ht] using h
      · by_cases ht : t = terminalId
        · simp [GatewayState.finalizeTerminal, ht] at h
        · simpa [GatewayState.finalizeTerminal, Function.update_of_ne ht] using h
  | released terminalId leaseId clientId =>
      unfold GatewayState.releaseInputLease
      cases hl : s.leases terminalId with
      | none => exact Quiet.refl s
      | some existing =>
          simp only
          split_ifs
          · exact Quiet.refl s
          · refine ⟨rfl, fun _ => rfl, fun _ _ h => h, fun t l h => ?_⟩
            by_cases ht : t = terminalId
            · simp [ht] at h
            · simpa [Function.update_of_ne ht] using h
  | closed terminalId killed =>
      unfold GatewayState.closeTerminal
      cases s.sessions terminalId with
      | none => exact Quiet.refl s
      | some session =>
          simp only
          split_ifs
          · exact Quiet.refl s
          · exact ⟨rfl, fun _ => rfl, fun _ _ h => h, fun _ _ h => h⟩

/-! ## Lockstep, except for one attachment -/

/-- The attachment is there, its session has counted so far, and the other attachments are in lockstep. -/
def At (id : TerminalAttachmentId) (a : Attachment) (generation input : Nat) (s : GatewayState) : Prop :=
  s.attachments id = some a ∧ Counted s a.terminalId generation input ∧
    ∀ id' a', id' ≠ id → s.attachments id' = some a' →
      ∃ input', Counted s a'.terminalId a'.resizeGeneration input' ∧ a'.nextInputSequence = input' + 1

theorem lockstep_iff {s : GatewayState} : Lockstep s ↔ ∀ id a, s.attachments id = some a →
    ∃ input, Counted s a.terminalId a.resizeGeneration input ∧ a.nextInputSequence = input + 1 := by
  refine forall₃_congr fun id a _ => ⟨?_, ?_⟩
  · rintro ⟨session, hs, hg, hi⟩
    exact ⟨session.lastInputSequence, by simp [Counted, hs, counters, hg], hi⟩
  · rintro ⟨input, hc, hi⟩
    obtain ⟨session, hs, hcounters⟩ := Option.map_eq_some_iff.mp hc
    obtain ⟨hg, hl⟩ := Prod.mk.inj hcounters
    exact ⟨session, hs, hg.symm, hl ▸ hi⟩

theorem Lockstep.at {s : GatewayState} (h : Lockstep s) {id : TerminalAttachmentId} {a : Attachment}
    (ha : s.attachments id = some a) :
    ∃ input, At id a a.resizeGeneration input s ∧ a.nextInputSequence = input + 1 := by
  obtain ⟨input, hc, hi⟩ := lockstep_iff.mp h id a ha
  exact ⟨input, ⟨ha, hc, fun id' a' _ ha' => lockstep_iff.mp h id' a' ha'⟩, hi⟩

theorem At.lockstep {s : GatewayState} {id : TerminalAttachmentId} {a : Attachment} {input : Nat}
    (h : At id a a.resizeGeneration input s) (hi : a.nextInputSequence = input + 1) : Lockstep s := by
  refine lockstep_iff.mpr fun id' a' ha' => ?_
  by_cases hid : id' = id
  · subst hid
    obtain rfl : a = a' := Option.some.inj (h.1.symm.trans ha')
    exact ⟨input, h.2.1, hi⟩
  · exact h.2.2 id' a' hid ha'

/-- A new terminal that no attachment has yet, whose leases are the client's. -/
def Opened (terminalId : TerminalId) (clientId : ClientId) (s : GatewayState) : Prop :=
  Lockstep s ∧ Counted s terminalId 0 0 ∧ (∀ id a, s.attachments id = some a → a.terminalId ≠ terminalId) ∧
    ∀ l, s.leases terminalId = some l → l.clientId = clientId

/-- What a quiet step does not change. -/
def Stable (p : GatewayState → Prop) : Prop := ∀ s s', Quiet s s' → p s → p s'

theorem stable_true : Stable fun _ => True := fun _ _ _ _ => trivial

theorem Stable.and {p q : GatewayState → Prop} (hp : Stable p) (hq : Stable q) : Stable fun s => p s ∧ q s :=
  fun s s' h hpq => ⟨hp s s' h hpq.1, hq s s' h hpq.2⟩

theorem stable_const (p : Prop) : Stable fun _ => p := fun _ _ _ h => h

theorem stable_counted (t : TerminalId) (generation input : Nat) : Stable fun s => Counted s t generation input :=
  fun _ _ h hc => (h.counters t).trans hc

theorem stable_attachments (p : (TerminalAttachmentId → Option Attachment) → Prop) : Stable fun s => p s.attachments :=
  fun s s' h hp => show p s'.attachments from h.attachments ▸ hp

theorem stable_lockstep : Stable Lockstep := by
  intro s s' h hs
  refine lockstep_iff.mpr fun id a ha => ?_
  obtain ⟨input, hc, hi⟩ := lockstep_iff.mp hs id a (h.attachments ▸ ha)
  exact ⟨input, (h.counters _).trans hc, hi⟩

theorem stable_at (id : TerminalAttachmentId) (a : Attachment) (generation input : Nat) :
    Stable (At id a generation input) := by
  rintro s s' h ⟨ha, hc, hothers⟩
  refine ⟨h.attachments ▸ ha, (h.counters _).trans hc, fun id' a' hid ha' => ?_⟩
  obtain ⟨input', hc', hi'⟩ := hothers id' a' hid (h.attachments ▸ ha')
  exact ⟨input', (h.counters _).trans hc', hi'⟩

theorem stable_opened (t : TerminalId) (clientId : ClientId) : Stable (Opened t clientId) := by
  rintro s s' h ⟨hs, hc, hnone, hl⟩
  exact ⟨stable_lockstep s s' h hs, (h.counters t).trans hc, fun id a ha => hnone id a (h.attachments ▸ ha),
    fun l hl' => hl l (h.leases t l hl')⟩

/-! ## Specifications of methods -/

/-- Every operation is possible, and the context that is looked up is there. -/
def Allowed (op : GatewayOp) (s : GatewayState) : Prop := Possible op s ∧ StillKnown op s

/-- From `pre`, the method keeps `Tidy` and ends in `post`, or in an error with everything in lockstep. -/
def Spec {α : Type} (pre : GatewayState → Prop) (m : GatewayMethod α) (post : α → GatewayState → Prop) : Prop :=
  ∀ s, Tidy s → pre s → m.SafeIf execGateway Allowed Quiet Tidy
    (fun r s => match r with
      | .ok a => post a s
      | .error _ => Lockstep s) s

section Rules

variable {α β : Type} {pre : GatewayState → Prop} {m : GatewayMethod α} {mid : α → GatewayState → Prop}
  {f : α → GatewayMethod β} {post : β → GatewayState → Prop}

theorem Spec.bind (hm : Spec pre m mid) (hf : ∀ a, Spec (mid a) (f a) post) : Spec pre (m >>= f) post :=
  fun s hs hpre => (hm s hs hpre).bind Quiet.refl (fun a s hs hmid => hf a s hs hmid) fun _ _ _ h => h

theorem Spec.weaken {pre' : GatewayState → Prop} (h : Spec pre m mid) (hpre : ∀ s, Tidy s → pre' s → pre s) :
    Spec pre' m mid := fun s hs h' => h s hs (hpre s hs h')

theorem Spec.mono {post' : α → GatewayState → Prop} (h : Spec pre m mid)
    (hpost : ∀ a s, Tidy s → mid a s → post' a s) : Spec pre m post' := by
  refine fun s hs hpre => (h s hs hpre).weaken fun r s ht hr => ?_
  cases r with
  | ok a => exact hpost a s ht hr
  | error e => exact hr

theorem spec_pure {a : α} (hpre : Stable pre) (h : ∀ s, Tidy s → pre s → mid a s) :
    Spec pre (pure a : GatewayMethod α) mid :=
  fun s _ hs => Prog.safeIf_ret fun s' hq ht => h s' ht (hpre s s' hq hs)

theorem spec_return {a : α} : Spec Lockstep (pure a : GatewayMethod α) fun _ => Lockstep :=
  spec_pure stable_lockstep fun _ _ h => h

theorem spec_lift {r : Except ConnectionError α} (hpre : Stable pre) (herr : ∀ s, pre s → Lockstep s)
    (h : ∀ a s, r = .ok a → Tidy s → pre s → mid a s) : Spec pre (GatewayMethod.lift r) mid := by
  refine fun s _ hs => Prog.safeIf_ret fun s' hq ht => ?_
  cases r with
  | error e => exact herr s' (hpre s s' hq hs)
  | ok a => exact h a s' rfl ht (hpre s s' hq hs)

theorem spec_ensure {condition : Prop} [Decidable condition] {e : ConnectionError} (hpre : Stable pre)
    (herr : ∀ s, pre s → Lockstep s) :
    Spec pre (GatewayMethod.ensure condition e) fun _ s => condition ∧ pre s := by
  refine spec_lift hpre herr fun a s hr _ hs => ⟨?_, hs⟩
  by_contra hc
  simp only [hc, if_false] at hr
  cases hr

theorem spec_perform {op : GatewayOp} {post : GatewayAns op → GatewayState → Prop} (hpre : Stable pre)
    (hpost : ∀ answer, Stable (post answer))
    (h : ∀ s, Tidy s → pre s → Allowed op s → Tidy (execGateway op s).1 ∧
      post (execGateway op s).2 (execGateway op s).1) : Spec pre (Prog.perform op) post := by
  refine fun s _ hs => Prog.safeIf_perform fun s' hq ht hallowed => ?_
  obtain ⟨htidy, hp⟩ := h s' ht (hpre s s' hq hs) hallowed
  exact ⟨htidy, fun t hqt _ => hpost _ _ t hqt hp⟩

/-- The daemon's errors leave everything in lockstep. -/
theorem spec_daemon {m : GatewayMethod (Except TerminalRequestError α)}
    {mid : Except TerminalRequestError α → GatewayState → Prop} (hm : Spec pre m mid)
    (hmid : ∀ r, Stable (mid r)) (herr : ∀ e s, mid (.error e) s → Lockstep s) :
    Spec pre (GatewayMethod.daemon m) fun a s => mid (.ok a) s := by
  refine hm.bind fun r => ?_
  cases r with
  | error e => exact fun s _ hs => Prog.safeIf_ret fun s' hq _ => herr e s' (hmid _ s s' hq hs)
  | ok a => exact fun s _ hs => Prog.safeIf_ret fun s' hq _ => hmid _ s s' hq hs

theorem spec_stuck (h : ∀ s, ¬pre s) : Spec pre m mid := fun s _ hs => absurd hs (h s)

theorem Spec.discard (hm : Spec pre m fun _ => Lockstep) : Spec pre m.discard fun _ => Lockstep :=
  hm.bind fun _ => spec_return

end Rules

/-! ## The operations -/

theorem spec_attachment (id : TerminalAttachmentId) :
    Spec Lockstep (GatewayMethod.attachment id) fun found s => Lockstep s ∧ s.attachments id = found :=
  spec_perform stable_lockstep (fun found => stable_lockstep.and (stable_attachments fun f => f id = found))
    fun _ ht hs _ => ⟨ht, hs, rfl⟩

/-- An attachment is replaced by one for the same terminal and client that has counted what the session has. -/
theorem spec_insert {id : TerminalAttachmentId} {a a' : Attachment} {generation input : Nat}
    (hterminal : a'.terminalId = a.terminalId) (hclient : a'.clientId = a.clientId)
    (hgeneration : a'.resizeGeneration = generation) (hinput : a'.nextInputSequence = input + 1) :
    Spec (At id a generation input) (GatewayMethod.insert id a') fun _ => Lockstep := by
  subst hgeneration
  refine spec_perform (stable_at id a _ input) (fun _ => stable_lockstep) fun s ht hs _ => ⟨?_, ?_⟩
  · obtain ⟨ha, -, -⟩ := hs
    have hold : ∀ id₁ a₁, Function.update s.attachments id (some a') id₁ = some a₁ →
        ∃ a₂, s.attachments id₁ = some a₂ ∧ a₁.terminalId = a₂.terminalId ∧ a₁.clientId = a₂.clientId := by
      intro id₁ a₁ h₁
      by_cases hid : id₁ = id
      · subst hid
        rw [Function.update_self] at h₁
        obtain rfl := Option.some.inj h₁
        exact ⟨a, ha, hterminal, hclient⟩
      · rw [Function.update_of_ne hid] at h₁
        exact ⟨a₁, h₁, rfl, rfl⟩
    refine ⟨fun id₁ a₁ h₁ => ?_, fun id₁ id₂ a₁ a₂ h₁ h₂ heq => ?_, fun t l hl => ?_, ht.shells⟩
    · obtain ⟨b, hb, hbt, -⟩ := hold id₁ a₁ h₁
      exact hbt ▸ ht.attached id₁ b hb
    · obtain ⟨b₁, hb₁, ht₁, -⟩ := hold id₁ a₁ h₁
      obtain ⟨b₂, hb₂, ht₂, -⟩ := hold id₂ a₂ h₂
      exact ht.distinct id₁ id₂ b₁ b₂ hb₁ hb₂ (ht₁.symm.trans (heq.trans ht₂))
    · obtain ⟨hsession, hclients⟩ := ht.leases t l hl
      refine ⟨hsession, fun id₁ a₁ h₁ hat => ?_⟩
      obtain ⟨b, hb, hbt, hbc⟩ := hold id₁ a₁ h₁
      exact (hclients id₁ b hb (hbt.symm.trans hat)).trans hbc.symm
  · obtain ⟨-, hc, hothers⟩ := hs
    refine (show At id a' a'.resizeGeneration input _ from ⟨Function.update_self .., ?_, ?_⟩).lockstep hinput
    · exact show Counted s a'.terminalId _ _ from hterminal ▸ hc
    · intro id₁ a₁ hid h₁
      have h₁' : Function.update s.attachments id (some a') id₁ = some a₁ := h₁
      rw [Function.update_of_ne hid] at h₁'
      exact hothers id₁ a₁ hid h₁'

theorem spec_remove (id : TerminalAttachmentId) :
    Spec Lockstep (Prog.perform (GatewayOp.remove id) : GatewayMethod Unit) fun _ => Lockstep := by
  refine spec_perform stable_lockstep (fun _ => stable_lockstep) fun s ht hs _ => ?_
  have hold : ∀ id₁ a₁, Function.update s.attachments id none id₁ = some a₁ → s.attachments id₁ = some a₁ := by
    intro id₁ a₁ h₁
    by_cases hid : id₁ = id
    · simp [hid] at h₁
    · rwa [Function.update_of_ne hid] at h₁
  refine ⟨⟨fun id₁ a₁ h₁ => ht.attached id₁ a₁ (hold id₁ a₁ h₁), fun id₁ id₂ a₁ a₂ h₁ h₂ =>
    ht.distinct id₁ id₂ a₁ a₂ (hold id₁ a₁ h₁) (hold id₂ a₂ h₂), fun t l hl => ?_, ht.shells⟩,
    fun id₁ a₁ h₁ => hs id₁ a₁ (hold id₁ a₁ h₁)⟩
  obtain ⟨hsession, hclients⟩ := ht.leases t l hl
  exact ⟨hsession, fun id₁ a₁ h₁ => hclients id₁ a₁ (hold id₁ a₁ h₁)⟩

/-- The session of an attachment's terminal changes what it has counted. -/
theorem At.updateSession {id : TerminalAttachmentId} {a : Attachment} {generation input : Nat} {s : GatewayState}
    (ht : Tidy s) (h : At id a generation input s) {session : TerminalSession} {generation' input' : Nat}
    (hg : session.resizeGeneration = generation') (hl : session.lastInputSequence = input') :
    Tidy { s with sessions := Function.update s.sessions a.terminalId (some session) } ∧
      At id a generation' input' { s with sessions := Function.update s.sessions a.terminalId (some session) } := by
  subst hg hl
  obtain ⟨ha, -, hothers⟩ := h
  refine ⟨ht.of_attachments_eq rfl (fun t hne => ?_) (fun _ _ h => Or.inl h) fun _ _ h => h, ha, ?_, ?_⟩
  · show Function.update s.sessions a.terminalId (some session) t ≠ none
    by_cases hta : t = a.terminalId
    · simp [hta]
    · rwa [Function.update_of_ne hta]
  · simp [Counted, counters]
  · intro id' a' hid ha'
    obtain ⟨input', hc, hi⟩ := hothers id' a' hid ha'
    have hne : a'.terminalId ≠ a.terminalId := fun heq => hid (ht.distinct id' id a' a ha' ha heq)
    exact ⟨input', by simpa only [Counted, Function.update_of_ne hne] using hc, hi⟩

theorem counted_session {s : GatewayState} {t : TerminalId} {generation input : Nat}
    (h : Counted s t generation input) : ∃ session, s.sessions t = some session ∧
      session.resizeGeneration = generation ∧ session.lastInputSequence = input := by
  obtain ⟨session, hs, hcounters⟩ := Option.map_eq_some_iff.mp h
  exact ⟨session, hs, Prod.mk.inj hcounters⟩

theorem spec_resizeSession {id : TerminalAttachmentId} {a : Attachment} {input : Nat}
    (hinput : a.nextInputSequence = input + 1) (resized : Except String Unit) (size : TerminalSize) :
    Spec (At id a a.resizeGeneration input)
      (GatewayMethod.resizeSession a.terminalId resized (a.resizeGeneration + 1) size)
      fun _ => At id a (a.resizeGeneration + 1) input := by
  let mid : Except TerminalRequestError Unit → GatewayState → Prop
    | .ok _ => At id a (a.resizeGeneration + 1) input
    | .error _ => At id a a.resizeGeneration input
  have hmid : ∀ r, Stable (mid r) := by rintro (e | u) <;> exact stable_at _ _ _ _
  refine spec_daemon (spec_perform (stable_at _ _ _ _) hmid ?_) hmid fun _ s hs => hs.lockstep hinput
  intro s ht hs _
  obtain ⟨session, hsession, hg, hl⟩ := counted_session hs.2.1
  simp only [execGateway, GatewayState.resizeSession, hsession]
  obtain ⟨e, hresize, -⟩ | hresize := session.resize_cases resized (a.resizeGeneration + 1) size
  · simp only [hresize]
    exact hs.updateSession ht hg hl
  · simp only [hresize]
    exact hs.updateSession ht rfl hl

theorem spec_writeTerminalInput {id : TerminalAttachmentId} {a : Attachment} {input : Nat}
    (hinput : a.nextInputSequence = input + 1) (clientId : ClientId) (leaseId : InputLeaseId) (bytes : List UInt8)
    (written : Except String Unit) :
    Spec (At id a a.resizeGeneration input)
      (GatewayMethod.daemon (Prog.perform (GatewayOp.writeTerminalInput clientId a.terminalId leaseId
        a.nextInputSequence bytes written)))
      fun _ => At id a a.resizeGeneration (input + 1) := by
  let mid : Except TerminalRequestError Unit → GatewayState → Prop
    | .ok _ => At id a a.resizeGeneration (input + 1)
    | .error _ => At id a a.resizeGeneration input
  have hmid : ∀ r, Stable (mid r) := by rintro (e | u) <;> exact stable_at _ _ _ _
  refine spec_daemon (spec_perform (stable_at _ _ _ _) hmid ?_) hmid fun _ s hs => hs.lockstep hinput
  intro s ht hs _
  obtain ⟨session, hsession, hg, hl⟩ := counted_session hs.2.1
  simp only [execGateway, GatewayState.writeTerminalInput, hsession]
  cases s.leases a.terminalId with
  | none => exact ⟨ht, hs⟩
  | some lease =>
      by_cases hlease : lease.leaseId ≠ leaseId ∨ lease.clientId ≠ clientId
      · simp only [hlease, if_true]
        exact ⟨ht, hs⟩
      · simp only [hlease, if_false]
        obtain ⟨e, hwrite, -⟩ | hwrite := session.writeInput_cases written a.nextInputSequence bytes
        · simp only [hwrite]
          exact hs.updateSession ht hg hl
        · simp only [hwrite]
          exact hs.updateSession ht hg hinput

/-- The context of a terminal that is looked up while it is known is that of a shell. -/
theorem spec_terminalContext {pre : GatewayState → Prop} (hpre : Stable pre) (terminalId : TerminalId) :
    Spec pre (GatewayMethod.terminalContext terminalId) fun context s => context = .userShell ∧ pre s := by
  have hstable : ∀ r : Except TerminalRequestError TerminalContext, Stable fun s => r = .ok .userShell ∧ pre s :=
    fun r => (stable_const _).and hpre
  refine (spec_daemon (spec_perform hpre hstable ?_) hstable fun e s h => nomatch h.1).mono ?_
  · intro s ht hs hallowed
    obtain ⟨context, hcontext⟩ := Option.ne_none_iff_exists'.mp hallowed.2
    obtain rfl := ht.shells _ _ hcontext
    exact ⟨ht, by simp only [execGateway, hcontext, okOr], hs⟩
  · rintro context s - ⟨h, hs⟩
    exact ⟨Except.ok.inj h, hs⟩

/-- The client of an attachment gets the lease of its terminal. -/
theorem spec_acquireInputLease (id : TerminalAttachmentId) {a : Attachment} {generation input : Nat}
    (leaseId : InputLeaseId) :
    Spec (At id a generation input) (GatewayMethod.acquireInputLease a.terminalId a.clientId leaseId)
      fun _ => At id a generation input := by
  have hstable : ∀ r : Except TerminalRequestError (InputLeaseId × Nat),
      Stable fun s => r.isOk = true ∧ At id a generation input s := fun r => (stable_const _).and (stable_at _ _ _ _)
  refine (spec_daemon (spec_perform (stable_at _ _ _ _) hstable ?_) hstable fun e s h => nomatch h.1).mono
    fun _ _ _ h => h.2
  intro s ht hs _
  obtain ⟨session, hsession, -⟩ := counted_session hs.2.1
  simp only [execGateway, GatewayState.acquireInputLease, hsession]
  cases hl : s.leases a.terminalId with
  | some existing =>
      simp only [(ht.leases _ _ hl).2 id a hs.1 rfl, if_true]
      exact ⟨ht, rfl, hs⟩
  | none =>
      refine ⟨⟨ht.attached, ht.distinct, fun t l hl' => ?_, ht.shells⟩, rfl, hs⟩
      by_cases hta : t = a.terminalId
      · subst hta
        simp only [Function.update_self, Option.some.injEq] at hl'
        subst hl'
        refine ⟨by simp [hsession], fun id' a' ha' hat => ?_⟩
        obtain rfl := ht.distinct id' id a' a ha' hs.1 hat
        exact congrArg Attachment.clientId (Option.some.inj (hs.1.symm.trans ha'))
      · simp only [Function.update_of_ne hta] at hl'
        exact ht.leases t l hl'

theorem spec_closeTerminal (terminalId : TerminalId) (killed : Except String Unit) :
    Spec Lockstep (Prog.perform (GatewayOp.closeTerminal terminalId killed) :
      GatewayMethod (Except TerminalRequestError Unit)) fun _ => Lockstep :=
  spec_perform stable_lockstep (fun _ => stable_lockstep) fun s ht hs _ =>
    have hquiet := (Unlocked.closed s terminalId killed).quiet
    ⟨hquiet.tidy ht, stable_lockstep s _ hquiet hs⟩

/-- A new terminal is no attachment's. -/
theorem spec_openUserShell (terminalId : TerminalId) (clientId : ClientId) (size : TerminalSize) (spawned : ShellSpawn) :
    Spec Lockstep (GatewayMethod.daemon (Prog.perform (GatewayOp.openUserShell terminalId size spawned)))
      fun opened => Opened opened clientId := by
  let mid : Except TerminalRequestError TerminalId → GatewayState → Prop
    | .ok opened => Opened opened clientId
    | .error _ => Lockstep
  have hmid : ∀ r, Stable (mid r) := by
    rintro (e | t)
    · exact stable_lockstep
    · exact stable_opened t clientId
  refine spec_daemon (spec_perform stable_lockstep hmid ?_) hmid fun _ _ h => h
  intro s ht hs hallowed
  have hnew : s.sessions terminalId = none := hallowed.1
  have hother : ∀ id a, s.attachments id = some a → a.terminalId ≠ terminalId :=
    fun id a ha heq => ht.attached id a ha (heq ▸ hnew)
  have hsessions : ∀ t, s.sessions t ≠ none →
      Function.update s.sessions terminalId (some TerminalSession.new) t ≠ none := by
    intro t hne
    by_cases hta : t = terminalId
    · simp [hta]
    · rwa [Function.update_of_ne hta]
  have hlockstep : ∀ contexts, Lockstep { s with
      sessions := Function.update s.sessions terminalId (some TerminalSession.new)
      contexts := contexts } := by
    intro contexts id a ha
    obtain ⟨session, hsession, hcounted⟩ := hs id a ha
    exact ⟨session, (Function.update_of_ne (hother id a ha) ..).trans hsession, hcounted⟩
  simp only [execGateway, GatewayState.openUserShell]
  cases TerminalSize.validate size with
  | error message => exact ⟨ht, hs⟩
  | ok =>
      cases spawned with
      | failed message => exact ⟨ht, hs⟩
      | unmonitored message =>
          exact ⟨ht.of_attachments_eq rfl hsessions (fun _ _ h => Or.inl h) fun _ _ h => h, hlockstep s.contexts⟩
      | opened =>
          refine ⟨ht.of_attachments_eq rfl hsessions (fun t context h => ?_) fun _ _ h => h, hlockstep _, ?_, hother,
            fun l hl => absurd hnew (ht.leases terminalId l hl).1⟩
          · by_cases hta : t = terminalId
            · simp only [hta, Function.update_self, Option.some.injEq] at h
              exact Or.inr h.symm
            · simp only [Function.update_of_ne hta] at h
              exact Or.inl h
          · simp [Counted, counters, TerminalSession.new]

theorem spec_acquireInputLease_opened (terminalId : TerminalId) (clientId : ClientId) (leaseId : InputLeaseId) :
    Spec (Opened terminalId clientId) (Prog.perform (GatewayOp.acquireInputLease terminalId clientId leaseId) :
      GatewayMethod (Except TerminalRequestError (InputLeaseId × Nat))) fun _ => Opened terminalId clientId := by
  refine spec_perform (stable_opened _ _) (fun _ => stable_opened _ _) fun s ht hs _ => ?_
  obtain ⟨session, hsession, -⟩ := counted_session hs.2.1
  simp only [execGateway, GatewayState.acquireInputLease, hsession]
  cases hl : s.leases terminalId with
  | some existing =>
      simp only
      split_ifs <;> exact ⟨ht, hs⟩
  | none =>
      obtain ⟨hlockstep, hc, hother, -⟩ := hs
      refine ⟨⟨ht.attached, ht.distinct, fun t l hl' => ?_, ht.shells⟩, hlockstep, hc, hother, fun l hl' => ?_⟩
      · by_cases hta : t = terminalId
        · subst hta
          exact ⟨by simp [hsession], fun id a ha hat => absurd hat (hother id a ha)⟩
        · simp only [Function.update_of_ne hta] at hl'
          exact ht.leases t l hl'
      · simp only [Function.update_self, Option.some.injEq] at hl'
        exact hl' ▸ rfl

/-- The first attachment of a new terminal. -/
theorem spec_insert_opened {terminalId : TerminalId} {clientId : ClientId} (id : TerminalAttachmentId)
    {a : Attachment} (hterminal : a.terminalId = terminalId) (hclient : a.clientId = clientId) (hgeneration : a.resizeGeneration = 0) (hinput : a.nextInputSequence = 1) :
    Spec (Opened terminalId clientId) (GatewayMethod.insert id a) fun _ => Lockstep := by
  subst hterminal hclient
  refine spec_perform (stable_opened _ _) (fun _ => stable_lockstep) fun s ht hs _ => ?_
  obtain ⟨hlockstep, hc, hother, hleases⟩ := hs
  have hold : ∀ id₁ a₁, Function.update s.attachments id (some a) id₁ = some a₁ →
      (id₁ = id ∧ a₁ = a) ∨ (id₁ ≠ id ∧ s.attachments id₁ = some a₁) := by
    intro id₁ a₁ h₁
    by_cases hid : id₁ = id
    · subst hid
      rw [Function.update_self] at h₁
      exact Or.inl ⟨rfl, (Option.some.inj h₁).symm⟩
    · rw [Function.update_of_ne hid] at h₁
      exact Or.inr ⟨hid, h₁⟩
  obtain ⟨session, hsession, -⟩ := counted_session hc
  refine ⟨⟨fun id₁ a₁ h₁ => ?_, fun id₁ id₂ a₁ a₂ h₁ h₂ heq => ?_, fun t l hl => ?_, ht.shells⟩, ?_⟩
  · obtain ⟨-, rfl⟩ | ⟨-, h⟩ := hold id₁ a₁ h₁
    · show s.sessions a₁.terminalId ≠ none
      simp [hsession]
    · exact ht.attached id₁ a₁ h
  · obtain ⟨rfl, rfl⟩ | ⟨-, h₁⟩ := hold id₁ a₁ h₁ <;> obtain ⟨rfl, rfl⟩ | ⟨-, h₂⟩ := hold id₂ a₂ h₂
    · rfl
    · exact absurd heq.symm (hother id₂ a₂ ‹_›)
    · exact absurd heq (hother id₁ a₁ ‹_›)
    · exact ht.distinct id₁ id₂ a₁ a₂ ‹_› ‹_› heq
  · obtain ⟨hne, hclients⟩ := ht.leases t l hl
    refine ⟨hne, fun id₁ a₁ h₁ hat => ?_⟩
    obtain ⟨-, rfl⟩ | ⟨-, h⟩ := hold id₁ a₁ h₁
    · exact hleases l (hat ▸ hl)
    · exact hclients id₁ a₁ h hat
  · refine lockstep_iff.mpr fun id₁ a₁ h₁ => ?_
    obtain ⟨-, rfl⟩ | ⟨-, h⟩ := hold id₁ a₁ h₁
    · exact ⟨0, hgeneration ▸ hc, hinput⟩
    · exact lockstep_iff.mp hlockstep id₁ a₁ h

/-! ## The methods -/

theorem spec_resizeTerminal (id : TerminalAttachmentId) {a : Attachment} {input : Nat}
    (hinput : a.nextInputSequence = input + 1) (env : GatewayEnv) (size : TerminalSize) :
    Spec (At id a a.resizeGeneration input) (resizeTerminal env a.terminalId (a.resizeGeneration + 1) size)
      fun _ => At id a (a.resizeGeneration + 1) input := by
  refine (spec_resizeSession hinput env.resized size).bind fun _ =>
    (spec_terminalContext (stable_at _ _ _ _) a.terminalId).bind fun context => ?_
  cases context with
  | operation taskId operationId => exact spec_stuck fun s h => nomatch h.1
  | userShell => exact spec_pure ((stable_const _).and (stable_at _ _ _ _)) fun _ _ h => h.2

theorem spec_reactivate (env : GatewayEnv) (hello : TerminalHello) (id : TerminalAttachmentId) (a : Attachment) :
    Spec (fun s => Lockstep s ∧ s.attachments id = some a) (reactivate env hello id a) fun _ => Lockstep := by
  have hstable : Stable fun s => Lockstep s ∧ s.attachments id = some a :=
    stable_lockstep.and (stable_attachments fun f => f id = some a)
  refine (spec_ensure hstable fun _ h => h.1).bind fun _ => ?_
  refine (spec_ensure ((stable_const _).and hstable) fun _ h => h.2.1).bind fun _ => ?_
  by_cases hinput : ∃ input, a.nextInputSequence = input + 1
  · obtain ⟨input, hinput⟩ := hinput
    refine ((spec_resizeTerminal id hinput env hello.size).weaken fun s _ hs => ?_).bind fun _ =>
      (spec_acquireInputLease id env.leaseId).bind fun lease => ?_
    · obtain ⟨input', hat, hinput'⟩ := hs.2.2.1.at hs.2.2.2
      obtain rfl : input' = input := Nat.succ.inj (hinput'.symm.trans hinput)
      exact hat
    · obtain ⟨leaseId, leaseGeneration⟩ := lease
      refine Spec.bind ?_ fun _ => spec_return
      exact spec_insert rfl rfl rfl hinput
  · refine spec_stuck fun s hs => hinput ?_
    obtain ⟨input, -, h⟩ := hs.2.2.1.at hs.2.2.2
    exact ⟨input, h⟩

theorem spec_openAttachment (env : GatewayEnv) (hello : TerminalHello) :
    Spec Lockstep (openAttachment env hello) fun _ => Lockstep := by
  refine (spec_openUserShell env.terminalId env.clientId hello.size env.spawned).bind fun terminalId =>
    (spec_acquireInputLease_opened terminalId env.clientId env.leaseId).bind fun lease => ?_
  cases lease with
  | error e =>
      refine ((spec_closeTerminal terminalId env.killed).weaken fun _ _ h => h.1).bind fun _ s _ hs => ?_
      exact Prog.safeIf_ret fun s' hq _ => stable_lockstep s s' hq hs
  | ok lease =>
      obtain ⟨leaseId, leaseGeneration⟩ := lease
      refine Spec.bind ?_ fun _ => spec_return
      exact spec_insert_opened env.attachmentId rfl rfl rfl rfl

theorem spec_activate (env : GatewayEnv) (hello : TerminalHello) :
    Spec Lockstep (activate env hello) fun _ => Lockstep := by
  refine (spec_lift stable_lockstep (fun _ h => h) fun _ _ _ _ h => h).bind fun _ =>
    (spec_ensure stable_lockstep fun _ h => h).bind fun _ => ?_
  have hopen : ∀ p : Prop, Spec (fun s => p ∧ Lockstep s) (openAttachment env hello) fun _ => Lockstep :=
    fun _ => (spec_openAttachment env hello).weaken fun _ _ h => h.2
  cases hello.attachmentId with
  | none => exact hopen _
  | some id =>
      refine ((spec_attachment id).weaken fun _ _ h => h.2).bind fun found => ?_
      cases found with
      | some a => exact spec_reactivate env hello id a
      | none => exact (spec_openAttachment env hello).weaken fun _ _ h => h.1

/-- The attachment of a connection is there, with the connection's terminal. -/
theorem spec_connectedAttachment (active : ActiveAttachment) :
    Spec Lockstep (connectedAttachment active) fun a s =>
      a.terminalId = active.terminalId ∧ Lockstep s ∧ s.attachments active.attachmentId = some a := by
  have hstable : ∀ found, Stable fun s => Lockstep s ∧ s.attachments active.attachmentId = found :=
    fun found => stable_lockstep.and (stable_attachments fun f => f active.attachmentId = found)
  refine (spec_attachment active.attachmentId).bind fun found => ?_
  have hlift : Spec (fun s => Lockstep s ∧ s.attachments active.attachmentId = found)
      (GatewayMethod.lift (okOr found .attachmentState)) fun a s =>
        Lockstep s ∧ s.attachments active.attachmentId = some a := by
    refine spec_lift (hstable found) (fun _ h => h.1) fun a s hr _ hs => ?_
    cases found with
    | none => cases hr
    | some a' => exact ⟨hs.1, Except.ok.inj hr ▸ hs.2⟩
  refine hlift.bind fun a => (spec_ensure (hstable _) fun _ h => h.1).bind fun _ => ?_
  exact spec_pure ((stable_const _).and (hstable _)) fun _ _ h => ⟨h.1.2.1, h.2⟩

/-- What a connection does with its attachment, where everything is in lockstep. -/
theorem Spec.connected {active : ActiveAttachment} {f : Attachment → GatewayMethod Unit}
    (h : ∀ a input, a.terminalId = active.terminalId → a.nextInputSequence = input + 1 →
      Spec (At active.attachmentId a a.resizeGeneration input) (f a) fun _ => Lockstep) :
    Spec Lockstep (connectedAttachment active >>= f) fun _ => Lockstep := by
  refine (spec_connectedAttachment active).bind fun a s ht hs => ?_
  obtain ⟨hterminal, hlockstep, ha⟩ := hs
  obtain ⟨input, hat, hinput⟩ := hlockstep.at ha
  exact h a input hterminal hinput s ht hat

theorem spec_acceptMetadata (active : ActiveAttachment) (revision : Nat) (title cwd : Option String) :
    Spec Lockstep (acceptMetadata active revision title cwd) fun _ => Lockstep := by
  refine (spec_ensure stable_lockstep fun _ h => h).bind fun _ => ?_
  refine (Spec.connected fun a input _ hinput => ?_).weaken fun _ _ h => h.2
  by_cases hrevision : revision ≤ a.metadataRevision
  · simp only [hrevision, if_true]
    exact spec_pure (stable_at _ _ _ _) fun _ _ h => h.lockstep hinput
  · simp only [hrevision, if_false]
    exact spec_insert rfl rfl rfl hinput

theorem spec_acceptInput (env : GatewayEnv) (active : ActiveAttachment) (sequence : Nat) (bytes : List UInt8) :
    Spec Lockstep (acceptInput env active sequence bytes) fun _ => Lockstep := by
  refine Spec.connected fun a input hterminal hinput => ?_
  refine (spec_ensure (stable_at _ _ _ _) fun _ h => h.lockstep hinput).bind fun _ => ?_
  by_cases hsequence : sequence = a.nextInputSequence
  · subst hsequence
    rw [← hterminal]
    refine ((spec_writeTerminalInput hinput active.clientId active.leaseId bytes env.written).weaken
      fun _ _ h => h.2).bind fun _ => ?_
    exact spec_insert rfl rfl rfl (congrArg (· + 1) hinput)
  · exact spec_stuck fun _ h => hsequence h.1

theorem spec_acceptResize (env : GatewayEnv) (active : ActiveAttachment) (generation : Nat) (size : TerminalSize) :
    Spec Lockstep (acceptResize env active generation size) fun _ => Lockstep := by
  refine Spec.connected fun a input hterminal hinput => ?_
  refine (spec_ensure (stable_at _ _ _ _) fun _ h => h.lockstep hinput).bind fun _ => ?_
  by_cases hgeneration : generation = a.resizeGeneration + 1
  · subst hgeneration
    rw [← hterminal]
    refine ((spec_resizeTerminal _ hinput env size).weaken fun _ _ h => h.2).bind fun _ => ?_
    exact spec_insert rfl rfl rfl hinput
  · exact spec_stuck fun _ h => hgeneration h.1

theorem spec_closeSession (env : GatewayEnv) (sessionId : Nat) (order : List TerminalAttachmentId) :
    Spec Lockstep (closeSession env sessionId order) fun _ => Lockstep := by
  have hfind : Spec Lockstep (Prog.perform (GatewayOp.findSession sessionId order) :
      GatewayMethod (Option (TerminalAttachmentId × TerminalId))) fun _ => Lockstep :=
    spec_perform stable_lockstep (fun _ => stable_lockstep) fun _ ht hs _ => ⟨ht, hs⟩
  refine hfind.bind fun found => ?_
  cases found with
  | none => exact spec_return
  | some found =>
      exact (spec_closeTerminal found.2 env.killed).bind fun _ => (spec_remove found.1).bind fun _ =>
        spec_lift stable_lockstep (fun _ h => h) fun _ _ _ _ h => h

theorem spec_disconnect (active : ActiveAttachment) : Spec Lockstep (disconnect active) fun _ => Lockstep := by
  refine (spec_attachment active.attachmentId).bind fun found => ?_
  have hstable : Stable fun s => Lockstep s ∧ s.attachments active.attachmentId = found :=
    stable_lockstep.and (stable_attachments fun f => f active.attachmentId = found)
  cases found with
  | none => exact spec_pure hstable fun _ _ h => h.1
  | some a =>
      by_cases hconnection : a.activeConnection = some active.connectionId
      · simp only [hconnection, if_true]
        intro s ht hs
        obtain ⟨input, hat, hinput⟩ := hs.1.at hs.2
        have hinsert : Spec (At active.attachmentId a a.resizeGeneration input)
            (GatewayMethod.insert active.attachmentId { a with activeConnection := none }) fun _ => Lockstep :=
          spec_insert rfl rfl rfl hinput
        exact hinsert s ht hat
      · simp only [hconnection, if_false]
        exact spec_pure hstable fun _ _ h => h.1

theorem GatewayCall.spec {m : GatewayMethod Unit} (h : GatewayCall m) : Spec Lockstep m fun _ => Lockstep := by
  cases h with
  | activate env hello => exact (spec_activate env hello).discard
  | acceptMetadata active revision title cwd => exact spec_acceptMetadata active revision title cwd
  | acceptInput env active sequence bytes => exact spec_acceptInput env active sequence bytes
  | acceptResize env active generation size => exact spec_acceptResize env active generation size
  | removeAttachment active => exact spec_remove active.attachmentId
  | closeSession env sessionId order => exact spec_closeSession env sessionId order
  | disconnect active => exact spec_disconnect active

/-! ## Runs -/

/-- No reconnection of the attachment and no next input is refused as stale. -/
def Reconnectable (s : GatewayState) : Prop :=
  ∀ id a, s.attachments id = some a → ∀ current actual : Nat,
    (∀ resized size, (s.resizeSession a.terminalId resized (a.resizeGeneration + 1) size).2 ≠
      .error (.terminal (.staleResizeGeneration current actual))) ∧
    ∀ clientId leaseId bytes written, (s.writeTerminalInput clientId a.terminalId leaseId a.nextInputSequence bytes
      written).2 ≠ .error (.terminal (.staleInputSequence current actual))

theorem Lockstep.reconnectable {s : GatewayState} (h : Lockstep s) : Reconnectable s := by
  intro id a ha current actual
  obtain ⟨session, hsession, hg, hi⟩ := h id a ha
  refine ⟨fun resized size hstale => ?_, fun clientId leaseId bytes written hstale => ?_⟩
  · simp only [GatewayState.resizeSession, hsession] at hstale
    obtain ⟨e, hresize, hne⟩ | hresize := session.resize_cases resized (a.resizeGeneration + 1) size
    · simp only [hresize, Except.mapError, Except.error.injEq, TerminalRequestError.terminal.injEq] at hstale
      exact hne (congrArg (· + 1) hg) current actual hstale
    · simp only [hresize, Except.mapError] at hstale
      cases hstale
  · unfold GatewayState.writeTerminalInput at hstale
    cases hl : s.leases a.terminalId with
    | none =>
        rw [hl] at hstale
        cases hstale
    | some lease =>
        simp only [hl, hsession] at hstale
        by_cases hlease : lease.leaseId ≠ leaseId ∨ lease.clientId ≠ clientId
        · simp only [hlease, if_true] at hstale
          cases hstale
        · simp only [hlease, if_false] at hstale
          obtain ⟨e, hwrite, hne⟩ | hwrite := session.writeInput_cases written a.nextInputSequence bytes
          · simp only [hwrite, Except.mapError, Except.error.injEq, TerminalRequestError.terminal.injEq] at hstale
            exact hne hi current actual hstale
          · simp only [hwrite, Except.mapError] at hstale
            cases hstale

/-- **The attachments stay in lockstep.** In every run in which a terminal is still known whenever its context is
looked up, every attachment can reconnect whenever the lock is free. -/
theorem attachments_lockstep {m : Monitor GatewayOp GatewayAns ConnectionError GatewayState}
    (hrun : GatewayRun (fun op s => Possible op s ∧ StillKnown op s) m) (hfree : m.inside = none) :
    Lockstep m.state ∧ Reconnectable m.state := by
  have htidy : Tidy GatewayState.start := by
    constructor <;> intros <;> contradiction
  have hstart : Lockstep GatewayState.start := fun id a ha => nomatch ha
  have h := Monitor.reachable Quiet.refl Quiet.trans (fun s s' h ht => ⟨h.quiet.tidy ht, h.quiet⟩)
    (fun s s' hq _ hs => stable_lockstep s s' hq hs)
    (fun p hp s ht hs => (hp.spec s ht hs).weaken fun r s _ hr => by cases r <;> exact hr) htidy hstart hrun
  rw [hfree] at h
  exact ⟨h.2, h.2.reconnectable⟩

/-- One browser opens session 1, goes away and comes back. -/
def browserEnv : GatewayEnv := ⟨1, ⟨1⟩, ⟨1⟩, ⟨1⟩, ⟨1⟩, .ok (), .ok (), .ok (), .ok (), .opened⟩

def browserHello (attachmentId : Option TerminalAttachmentId) : TerminalHello := ⟨1, attachmentId, ⟨80, 24, 0, 0⟩, none⟩

def openedState : GatewayState := ((activate browserEnv (browserHello none)).discard.run execGateway .start).1

def awayState : GatewayState :=
  ((disconnect ⟨⟨1⟩, 1, ⟨1⟩, ⟨1⟩, ⟨1⟩, 1, 0, 0⟩).run execGateway openedState).1

theorem reaches_awayState {allowed : GatewayOp → GatewayState → Prop}
    (h : ∀ op s, Possible op s ∧ StillKnown op s → allowed op s) : GatewayRun allowed ⟨awayState, none⟩ := by
  have hopened : GatewayRun allowed ⟨openedState, none⟩ :=
    Monitor.reaches_run (.activate browserEnv (browserHello none))
      ⟨h _ _ ⟨rfl, trivial⟩, h _ _ ⟨trivial, trivial⟩, h _ _ ⟨trivial, trivial⟩, trivial⟩
  refine hopened.trans (Monitor.reaches_run (.disconnect _) ?_)
  exact ⟨h _ _ ⟨trivial, trivial⟩, h _ _ ⟨trivial, trivial⟩, trivial⟩

def backState (s : GatewayState) : GatewayState :=
  ((activate browserEnv (browserHello (some ⟨1⟩))).discard.run execGateway s).1

/-- The browser comes back to a shell that still runs. -/
theorem attachments_lockstep_back :
    (backState awayState).attachments ⟨1⟩ ≠ none ∧ Lockstep (backState awayState) ∧
      Reconnectable (backState awayState) := by
  have hrun : GatewayRun (fun op s => Possible op s ∧ StillKnown op s) ⟨backState awayState, none⟩ := by
    refine (reaches_awayState fun _ _ h => h).trans
      (Monitor.reaches_run (GatewayCall.activate browserEnv (browserHello (some ⟨1⟩))) ?_)
    exact ⟨⟨trivial, trivial⟩, ⟨trivial, trivial⟩, ⟨trivial, fun h => nomatch h⟩, ⟨trivial, trivial⟩,
      ⟨trivial, trivial⟩, trivial⟩
  refine ⟨fun h => ?_, attachments_lockstep hrun rfl⟩
  cases h

def goneState : GatewayState := (awayState.exited ⟨1⟩ ⟨some 0, none⟩).finalizeTerminal ⟨1⟩

/-- The browser comes back after the exit of the shell is finalized: the session counts the new size, and the missing
context keeps the attachment from counting it. -/
theorem finalized_exit_breaks_lockstep :
    ¬∀ m, GatewayRun Possible m → m.inside = none → Lockstep m.state ∧ Reconnectable m.state := by
  intro h
  have hgone : GatewayRun Possible ⟨goneState, none⟩ :=
    .tail (.tail (reaches_awayState fun _ _ h => h.1) (.background none (.exited _ _ _)))
      (.background none (.finalized _ _))
  have hback : GatewayRun Possible ⟨backState goneState, none⟩ :=
    hgone.trans (Monitor.reaches_run (GatewayCall.activate browserEnv (browserHello (some ⟨1⟩)))
      ⟨trivial, trivial, trivial, trivial⟩)
  obtain ⟨session, hsession, hg, -⟩ := (h _ hback rfl).1 ⟨1⟩ ⟨1, ⟨1⟩, ⟨1⟩, 1, 0, none, 0, none, none⟩ rfl
  have hcounted : (backState goneState).sessions ⟨1⟩ = some ⟨0, 1, some ⟨some 0, none⟩⟩ := rfl
  obtain rfl := Option.some.inj (hsession.symm.trans hcounted)
  cases hg

end HyperTerm.Daemon
