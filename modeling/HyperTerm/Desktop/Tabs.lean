import Mathlib.Data.List.InsertIdx
import HyperTerm.Desktop.Sessions

/-!
# The tabs of the desktop

What opening, choosing and closing tabs does to the open sessions and to what they hold.

* `WellFormed` : the ids of the open sessions, and the lengths of the arrays beside them;
* `Keeps` : which draft and which pending prompt each open session has;
* `Retabbed` : what becomes of a client in one event, its workspace marked as changed or its tabs as they were;
* `retabbed_chooseTerminal`, `retabbed_createAgentSession`, `retabbed_chooseSession`, `retabbed_closeSession` : the
  events.
-/

namespace HyperTerm.Desktop
open HyperTerm.Lib

/-! ## Well-formed clients -/

/-- What holds of the tabs of a client. -/
structure WellFormed (m : Model) : Prop where
  drafts : m.agentComposerDrafts.length = m.sessionSlots.length
  pending : m.agentPendingPrompts.length = m.sessionSlots.length
  limit : m.sessionSlots.length ≤ maxSessions
  nodup : m.sessionIds.Nodup
  nonzero : 0 ∉ m.sessionIds
  active : m.activeSessionId ∈ m.sessionIds
  nextNonzero : m.nextSessionId ≠ 0
  next : m.nextSessionId ∉ m.sessionIds
  revision : m.desktopWorkspaceRevision ≤ maxRevision

theorem WellFormed.index (h : WellFormed m) {sessionId : UInt8} {i : Nat} :
    m.pendingAgentPromptIndex sessionId = some i ↔ m.sessionIds[i]? = some sessionId := by
  rw [Model.sessionIds, List.getElem?_map, Option.map_eq_some_iff]
  exact findIdx?_key_eq_some h.nodup

/-- The active session is where `activeSessionIndex` finds it. -/
theorem WellFormed.activeSessionIndex (h : WellFormed m) {i : Nat} :
    m.activeSessionIndex = i ↔ m.sessionIds[i]? = some m.activeSessionId := by
  obtain ⟨j, hj⟩ := List.getElem?_of_mem h.active
  have hidx : m.activeSessionIndex = j := by
    show (m.pendingAgentPromptIndex m.activeSessionId).getD 0 = j
    rw [h.index.mpr hj, Option.getD_some]
  rw [hidx, ← h.index, h.index.mpr hj, Option.some_inj]

/-! ## What the sessions hold -/

structure Kept where
  draft : String
  pending : String
  deriving DecidableEq

/-- What a session has when it is opened. -/
def Kept.blank : Kept := ⟨"", ""⟩

/-- The arrays hold what belongs to the sessions beside them. -/
def Filed (kept : UInt8 → Kept) (m : Model) : Prop :=
  ∀ (i : Nat) (sessionId : UInt8), m.sessionIds[i]? = some sessionId →
    m.agentComposerDrafts[i]? = some (kept sessionId).draft ∧ m.agentPendingPrompts[i]? = some (kept sessionId).pending

/-- Each open session has its own draft, in the composer while it is active, and its own pending prompt. -/
def Keeps (kept : UInt8 → Kept) (m : Model) : Prop := Filed kept m.saveActiveAgentComposer

@[simp] theorem saveActiveAgentComposer_twice (m : Model) :
    m.saveActiveAgentComposer.saveActiveAgentComposer = m.saveActiveAgentComposer := by
  show { m.saveActiveAgentComposer with
    agentComposerDrafts := (m.agentComposerDrafts.set m.activeSessionIndex m.agentComposerBuffer).set
      m.activeSessionIndex m.agentComposerBuffer } = _
  rw [List.set_set]
  rfl

theorem saveActiveAgentComposer_load (m : Model) :
    m.loadActiveAgentComposer.saveActiveAgentComposer.agentComposerDrafts = m.agentComposerDrafts := by
  show m.agentComposerDrafts.set m.activeSessionIndex ((m.agentComposerDrafts[m.activeSessionIndex]?).getD "") = _
  apply List.ext_getElem?
  intro i
  rw [List.getElem?_set]
  split
  · next h =>
      subst h
      split
      · next h => rw [List.getElem?_eq_getElem h, Option.getD_some]
      · next h => rw [List.getElem?_eq_none (Nat.le_of_not_lt h)]
  · rfl

theorem keeps_loadActiveAgentComposer {kept : UInt8 → Kept} {m : Model} :
    Keeps kept m.loadActiveAgentComposer ↔ Filed kept m := by
  unfold Keeps Filed
  rw [saveActiveAgentComposer_load]
  exact Iff.rfl

theorem keeps_saveActiveAgentComposer {kept : UInt8 → Kept} {m : Model} :
    Keeps kept m.saveActiveAgentComposer ↔ Keeps kept m := by
  unfold Keeps
  rw [saveActiveAgentComposer_twice]

theorem Filed.update {kept : UInt8 → Kept} {m : Model} (h : Filed kept m) {sessionId : UInt8}
    (hid : sessionId ∉ m.sessionIds) (k : Kept) : Filed (Function.update kept sessionId k) m := by
  intro i other hi
  have hne : other ≠ sessionId := fun he => hid (he ▸ List.mem_of_getElem? hi)
  rw [Function.update_of_ne hne]
  exact h i other hi

/-! ## One event -/

/-- The part of the state that says what of the workspace has been sent. -/
structure SamePersist (m m' : Model) : Prop where
  enabled : m'.desktopWorkspaceEnabled = m.desktopWorkspaceEnabled
  revision : m'.desktopWorkspaceRevision = m.desktopWorkspaceRevision
  persisted : m'.desktopWorkspacePersistedRevision = m.desktopWorkspacePersistedRevision
  inFlight : m'.desktopWorkspaceInFlightRevision = m.desktopWorkspaceInFlightRevision

/-- The part of the state that a snapshot is of, but for the provider of the next tab. -/
structure SameTabs (m m' : Model) : Prop where
  sessions : m'.sessionSlots.map Session.wire = m.sessionSlots.map Session.wire
  active : m'.activeSessionId = m.activeSessionId
  next : m'.nextSessionId = m.nextSessionId

/-- What becomes of a client in one event: its tabs stay, or its workspace is marked as changed. -/
inductive Retabbed (kept : UInt8 → Kept) (m : Model) : Model × Model.Sent → Prop
  | quiet (m₁ : Model) : WellFormed m₁ → Keeps kept m₁ → SamePersist m m₁ → SameTabs m m₁ → Retabbed kept m (m₁, none)
  | marked (m₁ : Model) : WellFormed m₁ → Keeps kept m₁ → SamePersist m m₁ →
      Retabbed kept m m₁.markDesktopWorkspaceChanged

theorem WellFormed.save (h : WellFormed m) : WellFormed m.saveActiveAgentComposer :=
  ⟨by simpa [Model.saveActiveAgentComposer] using h.drafts, h.pending, h.limit, h.nodup, h.nonzero, h.active,
    h.nextNonzero, h.next, h.revision⟩

theorem WellFormed.load (h : WellFormed m) : WellFormed m.loadActiveAgentComposer :=
  ⟨h.drafts, h.pending, h.limit, h.nodup, h.nonzero, h.active, h.nextNonzero, h.next, h.revision⟩

theorem following_ne_zero (sessionId : UInt8) : following sessionId ≠ 0 := by
  unfold following
  split
  · decide
  · assumption

theorem following_ne (sessionId : UInt8) : following sessionId ≠ sessionId := by
  unfold following
  split
  · next h =>
      intro hone
      rw [← hone] at h
      exact absurd h (by decide)
  · intro h
    have hlt : sessionId.toNat < 256 := sessionId.toNat_lt
    have hnat : (sessionId.toNat + 1) % 256 = sessionId.toNat := congrArg UInt8.toNat h
    omega

/-! ## Opening -/

/-- A session can be opened, and the id after its own is not open. -/
def NextFree (m : Model) : Prop := m.sessionSlots.length < maxSessions → following m.nextSessionId ∉ m.sessionIds

instance (m : Model) : Decidable (NextFree m) := by unfold NextFree; infer_instance

theorem sessionIds_pushSession (m : Model) (session : Session) :
    (m.pushSession session).sessionIds = m.sessionIds ++ [session.id] := List.map_append

theorem WellFormed.push (h : WellFormed m) (hlt : m.sessionSlots.length < maxSessions) (hfree : NextFree m)
    {session : Session} (hid : session.id = m.nextSessionId) : WellFormed (m.pushSession session) := by
  constructor
  · simp [Model.pushSession, h.drafts]
  · simp [Model.pushSession, h.pending]
  · show (m.sessionSlots ++ [session]).length ≤ maxSessions
    rw [List.length_append, List.length_singleton]
    omega
  · rw [sessionIds_pushSession, List.nodup_append]
    refine ⟨h.nodup, List.nodup_singleton _, fun a ha b hb he => h.next ?_⟩
    rw [← hid, ← List.mem_singleton.mp hb, ← he]
    exact ha
  · rw [sessionIds_pushSession, List.mem_append, List.mem_singleton, hid, not_or]
    exact ⟨h.nonzero, fun h0 => h.nextNonzero h0.symm⟩
  · rw [sessionIds_pushSession, List.mem_append]
    exact Or.inr (List.mem_singleton.mpr rfl)
  · exact following_ne_zero _
  · rw [sessionIds_pushSession, List.mem_append, List.mem_singleton, hid, not_or]
    exact ⟨hfree hlt, following_ne _⟩
  · exact h.revision

/-- A new session has an empty draft and no pending prompt. -/
theorem Filed.push {kept : UInt8 → Kept} {m : Model} (h : Filed kept m) (hm : WellFormed m) {session : Session}
    (hid : session.id = m.nextSessionId) :
    Filed (Function.update kept m.nextSessionId Kept.blank) (m.pushSession session) := by
  intro i sessionId hi
  rw [sessionIds_pushSession] at hi
  show (m.agentComposerDrafts ++ [""])[i]? = _ ∧ (m.agentPendingPrompts ++ [""])[i]? = _
  have hlen : m.sessionIds.length = m.sessionSlots.length := List.length_map _
  rcases Nat.lt_or_ge i m.sessionSlots.length with hlt | hge
  · rw [List.getElem?_append_left (by omega)] at hi
    rw [List.getElem?_append_left (by rw [hm.drafts]; exact hlt), List.getElem?_append_left (by rw [hm.pending]; exact hlt)]
    exact h.update hm.next Kept.blank i sessionId hi
  · rw [List.getElem?_append_right (by omega), hlen] at hi
    rw [List.getElem?_append_right (by rw [hm.drafts]; exact hge), List.getElem?_append_right (by rw [hm.pending]; exact hge),
      hm.drafts, hm.pending]
    cases hk : i - m.sessionSlots.length with
    | zero =>
        rw [hk, List.getElem?_cons_zero, Option.some_inj] at hi
        rw [← hi, hid, Function.update_self]
        exact ⟨rfl, rfl⟩
    | succ k =>
        rw [hk] at hi
        cases hi

/-- What a new session makes of a client. -/
theorem appendSession_spec {kept : UInt8 → Kept} {m : Model} (h : WellFormed m) (hk : Keeps kept m) (hfree : NextFree m)
    {mode : SessionMode} {m' : Model} {sessionId : UInt8} (happend : m.appendSession mode = some (m', sessionId)) :
    WellFormed m' ∧ Keeps (Function.update kept m.nextSessionId Kept.blank) m' ∧ SamePersist m m' := by
  unfold Model.appendSession at happend
  split at happend
  · cases happend
  · next hlimit =>
      obtain ⟨rfl, rfl⟩ := Prod.mk.inj (Option.some.inj happend)
      refine ⟨(h.save.push (Nat.lt_of_not_le hlimit) hfree rfl).load, ?_, ⟨rfl, rfl, rfl, rfl⟩⟩
      rw [keeps_loadActiveAgentComposer]
      exact Filed.push hk h.save rfl

theorem SameTabs.refl (m : Model) : SameTabs m m := ⟨rfl, rfl, rfl⟩

theorem SamePersist.refl (m : Model) : SamePersist m m := ⟨rfl, rfl, rfl, rfl⟩

theorem retabbed_chooseTerminal {kept : UInt8 → Kept} {m : Model} (h : WellFormed m) (hk : Keeps kept m)
    (hfree : NextFree m) :
    Retabbed (Function.update kept m.nextSessionId Kept.blank) m m.chooseTerminal := by
  unfold Model.chooseTerminal
  cases happend : m.appendSession .terminal with
  | none => exact Retabbed.quiet m h (hk.update h.next _) (SamePersist.refl m) (SameTabs.refl m)
  | some opened =>
      obtain ⟨hwf, hkeeps, hsame⟩ := appendSession_spec h hk hfree happend
      exact Retabbed.marked opened.1 hwf hkeeps hsame

/-! ## What leaves the tabs alone -/

/-- `m'` differs from `m` in what a tab does not show: the providers, and the connections of the sessions. -/
structure SameContents (m m' : Model) : Prop extends SamePersist m m', SameTabs m m' where
  ids : m'.sessionIds = m.sessionIds
  buffer : m'.agentComposerBuffer = m.agentComposerBuffer
  drafts : m'.agentComposerDrafts = m.agentComposerDrafts
  pending : m'.agentPendingPrompts = m.agentPendingPrompts

theorem SameContents.wellFormed (h : SameContents m m') (hm : WellFormed m) : WellFormed m' := by
  have hlen : m'.sessionSlots.length = m.sessionSlots.length := by
    simpa [Model.sessionIds] using congrArg List.length h.ids
  constructor
  · rw [h.drafts, hlen, hm.drafts]
  · rw [h.pending, hlen, hm.pending]
  · rw [hlen]
    exact hm.limit
  · rw [h.ids]
    exact hm.nodup
  · rw [h.ids]
    exact hm.nonzero
  · rw [h.ids, h.active]
    exact hm.active
  · rw [h.next]
    exact hm.nextNonzero
  · rw [h.ids, h.next]
    exact hm.next
  · rw [h.revision]
    exact hm.revision

theorem SameContents.activeSessionIndex (h : SameContents m m') : m'.activeSessionIndex = m.activeSessionIndex := by
  have hfind : ∀ l : List Session, l.findIdx? (fun session => session.id = m.activeSessionId) =
      (l.map Session.id).findIdx? fun sessionId => sessionId = m.activeSessionId := by
    intro l
    rw [List.findIdx?_map]
    rfl
  unfold Model.activeSessionIndex
  rw [h.active, hfind, hfind]
  exact congrArg (fun ids => (List.findIdx? _ ids).getD 0) h.ids

theorem SameContents.keeps {kept : UInt8 → Kept} (h : SameContents m m') (hm : Keeps kept m) : Keeps kept m' := by
  intro i sessionId hi
  change m'.sessionIds[i]? = _ at hi
  rw [h.ids] at hi
  show (m'.agentComposerDrafts.set m'.activeSessionIndex m'.agentComposerBuffer)[i]? = _ ∧ m'.agentPendingPrompts[i]? = _
  rw [h.drafts, h.activeSessionIndex, h.buffer, h.pending]
  exact hm i sessionId hi

theorem map_updateFirst_of_eq {α β : Type} {p : α → Bool} {f : α → α} {g : α → β} (h : ∀ a, p a → g (f a) = g a)
    (l : List α) : (updateFirst p f l).map g = l.map g := by
  induction l with
  | nil => rfl
  | cons a l ih =>
      unfold updateFirst
      split
      · next ha => rw [List.map_cons, List.map_cons, h a ha]
      · rw [List.map_cons, List.map_cons, ih]

theorem sameContents_setAgentConnection (m : Model) (sessionId : UInt8) (connection : AgentConnection) :
    SameContents m (m.setAgentConnection sessionId connection) := by
  have hsame : ∀ {β : Type} (g : Session → β) (_ : ∀ session : Session, g { session with agentConnection := connection } = g session),
      (m.setAgentConnection sessionId connection).sessionSlots.map g = m.sessionSlots.map g := fun g hg =>
    map_updateFirst_of_eq (fun session _ => hg session) m.sessionSlots
  exact ⟨⟨rfl, rfl, rfl, rfl⟩, ⟨hsame Session.wire fun _ => rfl, rfl, rfl⟩, hsame Session.id fun _ => rfl, rfl, rfl, rfl⟩

theorem SameContents.refl (m : Model) : SameContents m m := ⟨SamePersist.refl m, SameTabs.refl m, rfl, rfl, rfl, rfl⟩

theorem sameContents_requestAgentStart (m : Model) (sessionId : UInt8) :
    SameContents m (m.requestAgentStart sessionId) := by
  unfold Model.requestAgentStart
  split
  · exact SameContents.refl m
  · exact sameContents_setAgentConnection m sessionId .connecting

theorem sameContents_applyAgentProviderRefresh (m : Model) (available authenticated sessionAuth : List AgentProvider) :
    SameContents m (m.applyAgentProviderRefresh available authenticated sessionAuth) := by
  unfold Model.applyAgentProviderRefresh
  dsimp only
  split
  · exact ⟨⟨rfl, rfl, rfl, rfl⟩, ⟨rfl, rfl, rfl⟩, rfl, rfl, rfl, rfl⟩
  · exact ⟨⟨rfl, rfl, rfl, rfl⟩, ⟨rfl, rfl, rfl⟩, rfl, rfl, rfl, rfl⟩

theorem SameContents.retabbed {kept : UInt8 → Kept} {m m' : Model} (h : SameContents m m') (hm : WellFormed m)
    (hk : Keeps kept m) : Retabbed kept m (m', none) :=
  Retabbed.quiet m' (h.wellFormed hm) (h.keeps hk) h.toSamePersist h.toSameTabs

theorem SamePersist.trans (h : SamePersist m m') (h' : SamePersist m' m'') : SamePersist m m'' :=
  ⟨h'.enabled.trans h.enabled, h'.revision.trans h.revision, h'.persisted.trans h.persisted,
    h'.inFlight.trans h.inFlight⟩

theorem retabbed_openProviderLoginTerminal {kept : UInt8 → Kept} {m : Model} (h : WellFormed m) (hk : Keeps kept m)
    (provider : AgentProvider) (hfree : provider.loginCommand ≠ none → NextFree m) :
    Retabbed (Function.update kept m.nextSessionId Kept.blank) m (m.openProviderLoginTerminal provider) := by
  unfold Model.openProviderLoginTerminal
  split
  · exact Retabbed.quiet m h (hk.update h.next _) (SamePersist.refl m) (SameTabs.refl m)
  · next hlogin => exact retabbed_chooseTerminal h hk (hfree hlogin)

theorem retabbed_createAgentSession {kept : UInt8 → Kept} {m : Model} (h : WellFormed m) (hk : Keeps kept m)
    (provider : AgentProvider)
    (hfree : ¬(m.availableAgentProviders ≠ [] ∧ m.agentProviderAvailable provider = false) → NextFree m) :
    Retabbed (Function.update kept m.nextSessionId Kept.blank) m (m.createAgentSession provider) := by
  have hkept := hk.update h.next Kept.blank
  unfold Model.createAgentSession
  split
  · exact Retabbed.quiet m h hkept (SamePersist.refl m) (SameTabs.refl m)
  · next havailable =>
    have hselected : SameContents m { m with selectedAgentProvider := provider } :=
      ⟨⟨rfl, rfl, rfl, rfl⟩, ⟨rfl, rfl, rfl⟩, rfl, rfl, rfl, rfl⟩
    cases happend : Model.appendSession { m with selectedAgentProvider := provider } .agent with
    | none =>
        dsimp only
        rw [happend]
        exact hselected.retabbed h hkept
    | some opened =>
        dsimp only
        rw [happend]
        obtain ⟨hwf, hkeeps, hsame⟩ := appendSession_spec (hselected.wellFormed h) (hselected.keeps hk)
          (hfree havailable) happend
        have hstart : SameContents opened.1
            (if opened.1.agentBaseUrl ≠ "" ∧ opened.1.agentProviderReady provider = true
              then opened.1.requestAgentStart opened.2 else opened.1) := by
          split
          · exact sameContents_requestAgentStart opened.1 opened.2
          · exact SameContents.refl opened.1
        exact Retabbed.marked _ (hstart.wellFormed hwf) (hstart.keeps hkeeps)
          ((show SamePersist m opened.1 from ⟨hsame.enabled, hsame.revision, hsame.persisted, hsame.inFlight⟩).trans
            hstart.toSamePersist)

/-! ## Typing -/

theorem WellFormed.composerChanged (h : WellFormed m) (text : String) : WellFormed (m.agentComposerChanged text) :=
  ⟨h.drafts, h.pending, h.limit, h.nodup, h.nonzero, h.active, h.nextNonzero, h.next, h.revision⟩

theorem Keeps.composerChanged {kept : UInt8 → Kept} {m : Model} (hk : Keeps kept m) (h : WellFormed m) (text : String) :
    Keeps (Function.update kept m.activeSessionId { kept m.activeSessionId with draft := text })
      (m.agentComposerChanged text) := by
  intro i sessionId hi
  obtain ⟨hdraft, hpending⟩ := hk i sessionId hi
  have hindex : m.activeSessionIndex = i ↔ sessionId = m.activeSessionId := by
    rw [h.activeSessionIndex]
    change m.sessionIds[i]? = some sessionId at hi
    rw [hi, Option.some_inj]
  change (m.agentComposerDrafts.set m.activeSessionIndex m.agentComposerBuffer)[i]? = _ at hdraft
  show (m.agentComposerDrafts.set m.activeSessionIndex text)[i]? = _ ∧ m.agentPendingPrompts[i]? = _
  rw [List.getElem?_set] at hdraft ⊢
  by_cases hactive : sessionId = m.activeSessionId
  · subst hactive
    rw [if_pos (hindex.mpr rfl)] at hdraft ⊢
    rw [Function.update_self]
    refine ⟨?_, hpending⟩
    split at hdraft
    · next hlt => rw [if_pos hlt]
    · cases hdraft
  · rw [if_neg (fun he => hactive (hindex.mp he))] at hdraft ⊢
    rw [Function.update_of_ne hactive]
    exact ⟨hdraft, hpending⟩

theorem retabbed_agentComposerChanged {kept : UInt8 → Kept} {m : Model} (h : WellFormed m) (hk : Keeps kept m)
    (text : String) :
    Retabbed (Function.update kept m.activeSessionId { kept m.activeSessionId with draft := text }) m
      (m.agentComposerChanged text, none) :=
  Retabbed.quiet _ (h.composerChanged text) (hk.composerChanged h text) ⟨rfl, rfl, rfl, rfl⟩ ⟨rfl, rfl, rfl⟩

theorem WellFormed.setPending (h : WellFormed m) (sessionId : UInt8) (text : String) :
    WellFormed (m.setPendingAgentPrompt sessionId text) := by
  unfold Model.setPendingAgentPrompt
  split
  · exact h
  · exact ⟨h.drafts, (List.length_set).trans h.pending, h.limit, h.nodup, h.nonzero, h.active, h.nextNonzero, h.next,
      h.revision⟩

theorem Keeps.setPending {kept : UInt8 → Kept} {m : Model} (hk : Keeps kept m) (h : WellFormed m) (sessionId : UInt8)
    (text : String) :
    Keeps (Function.update kept sessionId { kept sessionId with pending := text })
      (m.setPendingAgentPrompt sessionId text) := by
  unfold Model.setPendingAgentPrompt
  split
  · next hnone =>
      refine hk.update ?_ _
      intro hmem
      obtain ⟨i, hi⟩ := List.getElem?_of_mem hmem
      rw [h.index.mpr hi] at hnone
      cases hnone
  · next index hindex =>
      intro i other hi
      obtain ⟨hdraft, hpending⟩ := hk i other hi
      change m.sessionIds[i]? = some other at hi
      change m.agentPendingPrompts[i]? = some (kept other).pending at hpending
      have hother : index = i ↔ other = sessionId := by
        rw [← Option.some_inj, ← hindex, h.index, hi, Option.some_inj]
      show _ ∧ (m.agentPendingPrompts.set index text)[i]? = _
      rw [List.getElem?_set]
      by_cases hid : other = sessionId
      · subst hid
        rw [if_pos (hother.mpr rfl), Function.update_self, hother.mpr rfl]
        refine ⟨hdraft, if_pos ?_⟩
        exact (List.getElem?_eq_some_iff.mp hpending).1
      · rw [if_neg (fun he => hid (hother.mp he)), Function.update_of_ne hid]
        exact ⟨hdraft, hpending⟩

theorem retabbed_setPendingAgentPrompt {kept : UInt8 → Kept} {m : Model} (h : WellFormed m) (hk : Keeps kept m)
    (sessionId : UInt8) (text : String) :
    Retabbed (Function.update kept sessionId { kept sessionId with pending := text }) m
      (m.setPendingAgentPrompt sessionId text, none) := by
  refine Retabbed.quiet _ (h.setPending sessionId text) (hk.setPending h sessionId text) ?_ ?_
  · unfold Model.setPendingAgentPrompt
    split <;> exact ⟨rfl, rfl, rfl, rfl⟩
  · unfold Model.setPendingAgentPrompt
    split <;> exact ⟨rfl, rfl, rfl⟩

/-! ## Choosing -/

theorem retabbed_chooseSession {kept : UInt8 → Kept} {m : Model} (h : WellFormed m) (hk : Keeps kept m)
    (sessionId : UInt8) : Retabbed kept m (m.chooseSession sessionId) := by
  have hselected : WellFormed (m.saveActiveAgentComposer.selectSession sessionId) := by
    unfold Model.selectSession
    split
    · next hmem =>
        have hs := h.save
        exact ⟨hs.drafts, hs.pending, hs.limit, hs.nodup, hs.nonzero, hmem, hs.nextNonzero, hs.next, hs.revision⟩
    · exact h.save
  unfold Model.chooseSession
  dsimp only
  split
  · next hsame =>
      have heq : m.saveActiveAgentComposer.selectSession sessionId = m.saveActiveAgentComposer := by
        unfold Model.selectSession at hsame ⊢
        split at hsame
        · next hmem =>
            rw [if_pos hmem]
            change sessionId = m.saveActiveAgentComposer.activeSessionId at hsame
            rw [hsame]
        · next hmem => rw [if_neg hmem]
      rw [heq]
      exact Retabbed.quiet _ h.save (keeps_saveActiveAgentComposer.mpr hk) ⟨rfl, rfl, rfl, rfl⟩ ⟨rfl, rfl, rfl⟩
  · apply Retabbed.marked _ hselected.load
    · rw [keeps_loadActiveAgentComposer]
      unfold Model.selectSession
      split
      · exact hk
      · exact hk
    · unfold Model.selectSession
      split
      · exact ⟨rfl, rfl, rfl, rfl⟩
      · exact ⟨rfl, rfl, rfl, rfl⟩

/-! ## Closing -/

theorem sessionIds_eraseSession (m : Model) (index : Nat) :
    (m.eraseSession index).sessionIds = m.sessionIds.eraseIdx index :=
  (List.eraseIdx_map Session.id m.sessionSlots index).symm

theorem WellFormed.erase (h : WellFormed m) {index : Nat} {active : UInt8} (hactive : active ∈ m.sessionIds.eraseIdx index) :
    WellFormed (Model.eraseSession { m with activeSessionId := active } index) := by
  have hids := sessionIds_eraseSession { m with activeSessionId := active } index
  have hsub : ∀ {a : UInt8}, a ∈ m.sessionIds.eraseIdx index → a ∈ m.sessionIds := List.mem_of_mem_eraseIdx
  constructor
  · show (m.agentComposerDrafts.eraseIdx index).length = (m.sessionSlots.eraseIdx index).length
    rw [List.length_eraseIdx, List.length_eraseIdx, h.drafts]
  · show (m.agentPendingPrompts.eraseIdx index).length = (m.sessionSlots.eraseIdx index).length
    rw [List.length_eraseIdx, List.length_eraseIdx, h.pending]
  · exact (List.length_eraseIdx_le m.sessionSlots index).trans h.limit
  · rw [hids]
    exact h.nodup.sublist (List.eraseIdx_sublist _ _)
  · rw [hids]
    exact fun h0 => h.nonzero (hsub h0)
  · rw [hids]
    exact hactive
  · exact h.nextNonzero
  · rw [hids]
    exact fun hn => h.next (hsub hn)
  · exact h.revision

theorem Filed.erase {kept : UInt8 → Kept} {m : Model} (h : Filed kept m) (index : Nat) (active : UInt8) :
    Filed kept (Model.eraseSession { m with activeSessionId := active } index) := by
  intro i sessionId hi
  rw [sessionIds_eraseSession, List.getElem?_eraseIdx] at hi
  show (m.agentComposerDrafts.eraseIdx index)[i]? = _ ∧ (m.agentPendingPrompts.eraseIdx index)[i]? = _
  rw [List.getElem?_eraseIdx, List.getElem?_eraseIdx]
  split at hi
  · next hlt =>
      rw [if_pos hlt, if_pos hlt]
      exact h i sessionId hi
  · next hge =>
      rw [if_neg hge, if_neg hge]
      exact h (i + 1) sessionId hi

/-- The session that becomes active is one that stays open. -/
theorem neighbour_mem {m : Model} {index : Nat} (hlt : index < m.sessionSlots.length) (hlen : m.sessionSlots.length ≠ 1) :
    m.neighbour index ∈ m.sessionIds.eraseIdx index := by
  rw [List.mem_eraseIdx_iff_getElem?]
  have hids : ∀ i, m.sessionIds[i]? = (m.sessionSlots[i]?).map Session.id := fun i => List.getElem?_map
  unfold Model.neighbour
  split
  · next hnext =>
      refine ⟨index + 1, by omega, ?_⟩
      rw [hids, List.getElem?_eq_getElem hnext]
      rfl
  · next hlast =>
      have hprev : index - 1 < m.sessionSlots.length := by omega
      refine ⟨index - 1, by omega, ?_⟩
      rw [hids, List.getElem?_eq_getElem hprev]
      rfl

theorem retabbed_closeSession {kept : UInt8 → Kept} {m : Model} (h : WellFormed m) (hk : Keeps kept m)
    (sessionId : UInt8) : Retabbed kept m (m.closeSession sessionId) := by
  have hsaved : Retabbed kept m (m.saveActiveAgentComposer, none) :=
    Retabbed.quiet _ h.save (keeps_saveActiveAgentComposer.mpr hk) ⟨rfl, rfl, rfl, rfl⟩ ⟨rfl, rfl, rfl⟩
  unfold Model.closeSession
  dsimp only
  cases hfind : m.saveActiveAgentComposer.sessionSlots.findIdx? fun session => session.id = sessionId with
  | none => exact hsaved
  | some index =>
      dsimp only
      split
      · exact hsaved
      · next hlen =>
          obtain ⟨session, hsession, hid⟩ := (findIdx?_key_eq_some h.nodup).mp hfind
          obtain ⟨hlt, -⟩ := List.getElem?_eq_some_iff.mp hsession
          have hactive : (if m.saveActiveAgentComposer.activeSessionId = sessionId
              then m.saveActiveAgentComposer.neighbour index else m.saveActiveAgentComposer.activeSessionId) ∈
              m.saveActiveAgentComposer.sessionIds.eraseIdx index := by
            split
            · exact neighbour_mem hlt hlen
            · next hother =>
                obtain ⟨j, hj⟩ := List.getElem?_of_mem h.active
                refine List.mem_eraseIdx_iff_getElem?.mpr ⟨j, ?_, hj⟩
                intro hji
                subst hji
                have hids : m.sessionIds[j]? = some session.id := by
                  show (m.sessionSlots.map Session.id)[j]? = _
                  rw [List.getElem?_map, hsession]
                  rfl
                exact hother ((Option.some_inj.mp (hj.symm.trans hids)).trans hid)
          refine Retabbed.marked _ (h.save.erase hactive).load ?_ ⟨rfl, rfl, rfl, rfl⟩
          rw [keeps_loadActiveAgentComposer]
          exact Filed.erase hk index _

end HyperTerm.Desktop
