import HyperTerm.Desktop.Projection

/-!
# What a session shows is followed

The invariant behind `projection_safe`. There is at most one request for a snapshot, it is of a session that is ready,
and it was made after what is shown was published; a session that is not ready shows nothing.

* `SameSessions`, `StaysReady` : what becomes of the sessions in an event;
* `Waits`, `Renders` : the invariant, of what is waited for and of what is shown;
* `step_follows` : one event keeps it;
* `projection_safe` : and so does every run within the condition;
* `resync_forgotten` : outside of it, a snapshot that fails leaves a resync behind.
-/

namespace HyperTerm.Desktop
open HyperTerm.Lib HyperTerm.Protocol HyperTerm.Core

variable {m m' m'' : Model}

/-! ## Sessions -/

/-- The sessions, and which one is active, are as they were. -/
structure SameSessions (m m' : Model) : Prop where
  slots : m'.sessionSlots = m.sessionSlots
  active : m'.activeSessionId = m.activeSessionId
  baseUrl : m'.agentBaseUrl = m.agentBaseUrl

theorem SameSessions.refl (m : Model) : SameSessions m m := ⟨rfl, rfl, rfl⟩

theorem SameSessions.trans (h : SameSessions m m') (h' : SameSessions m' m'') : SameSessions m m'' :=
  ⟨h'.slots.trans h.slots, h'.active.trans h.active, h'.baseUrl.trans h.baseUrl⟩

theorem sameSessions_setPendingAgentPrompt (m : Model) (sessionId : UInt8) (text : String) :
    SameSessions m (m.setPendingAgentPrompt sessionId text) := by
  unfold Model.setPendingAgentPrompt
  split
  · exact SameSessions.refl m
  · exact ⟨rfl, rfl, rfl⟩

theorem sameSessions_restorePendingAgentPrompt (m : Model) (sessionId : UInt8) :
    SameSessions m (m.restorePendingAgentPrompt sessionId) := by
  unfold Model.restorePendingAgentPrompt
  split
  · exact SameSessions.refl m
  · refine SameSessions.trans ?_ (sameSessions_setPendingAgentPrompt _ _ _)
    split
    · exact SameSessions.refl m
    · split
      · exact ⟨rfl, rfl, rfl⟩
      · exact SameSessions.refl m

theorem sameSessions_reconcile (m : AgentModel) (sessionId : UInt8) :
    SameSessions m.toModel (m.reconcilePendingAgentPrompt sessionId).toModel := by
  unfold AgentModel.reconcilePendingAgentPrompt
  split
  · exact sameSessions_restorePendingAgentPrompt _ _
  · exact sameSessions_setPendingAgentPrompt _ _ _
  · exact SameSessions.refl _

theorem sameSessions_snapshotResponse (m : AgentModel) (sessionId : UInt8) (result : AgentModel.SnapshotResult) :
    SameSessions m.toModel (m.applyAgentSnapshotResponse sessionId result).toModel := by
  unfold AgentModel.applyAgentSnapshotResponse
  split
  · exact SameSessions.refl _
  · cases result with
    | failed | ignored => exact SameSessions.refl _
    | projected status => exact sameSessions_reconcile { m with agentTurnStatus := status } sessionId

theorem sameSessions_stateFrame (m : AgentModel) (sessionId : UInt8) (status : Option AgentTurnStatus) :
    SameSessions m.toModel (m.applyAgentStateFrame sessionId status).toModel := by
  unfold AgentModel.applyAgentStateFrame
  split
  · exact SameSessions.refl _
  · exact sameSessions_reconcile { m with agentTurnStatus := status.getD m.agentTurnStatus } sessionId

theorem toModel_frameStatus (m : AgentModel) (sessionId : UInt8) (status : Option AgentTurnStatus) :
    (m.applyAgentFrameStatus sessionId status).toModel = m.toModel := by
  unfold AgentModel.applyAgentFrameStatus
  split <;> rfl

theorem sameSessions_requestAgentTurn (m : AgentModel) : SameSessions m.toModel m.requestAgentTurn.1.toModel := by
  unfold AgentModel.requestAgentTurn
  split
  · exact SameSessions.refl _
  · dsimp only
    split
    · exact SameSessions.refl _
    · exact (sameSessions_setPendingAgentPrompt m.toModel m.activeSessionId (trimPrompt m.agentComposerBuffer)).trans
        ⟨rfl, rfl, rfl⟩

theorem sameSessions_mark (m : Model) : SameSessions m m.markDesktopWorkspaceChanged.1 := by
  unfold Model.markDesktopWorkspaceChanged Model.requestDesktopWorkspacePersist
  split
  · exact SameSessions.refl m
  · split
    · exact ⟨rfl, rfl, rfl⟩
    · split <;> exact ⟨rfl, rfl, rfl⟩

/-! ## Ready sessions -/

/-- Sessions that are ready and stay open stay ready. -/
structure StaysReady (m m' : Model) : Prop where
  ready : ∀ sessionId, IsReady m sessionId → sessionId ∈ m'.sessionIds → IsReady m' sessionId
  baseUrl : m'.agentBaseUrl = m.agentBaseUrl

theorem StaysReady.writesUrl (h : StaysReady m m') : m'.writesUrl = m.writesUrl := by
  unfold Model.writesUrl
  rw [h.baseUrl]

theorem SameSessions.staysReady (h : SameSessions m m') : StaysReady m m' :=
  ⟨fun _ hready _ => by unfold IsReady; rwa [h.slots], h.baseUrl⟩

theorem SameSessions.sessionIds (h : SameSessions m m') : m'.sessionIds = m.sessionIds := by
  unfold Model.sessionIds
  rw [h.slots]

theorem IsReady.mem {sessionId : UInt8} (h : IsReady m sessionId) : sessionId ∈ m.sessionIds := by
  obtain ⟨session, hmem, hid, -⟩ := h
  exact List.mem_map.mpr ⟨session, hmem, hid⟩

/-- The active session is open. -/
theorem WellFormed.activeSession (h : WellFormed m) :
    ∃ session ∈ m.sessionSlots, m.activeSession = some session ∧ session.id = m.activeSessionId := by
  obtain ⟨session, hmem, hid⟩ := List.mem_map.mp h.active
  have hfind : m.findSession m.activeSessionId = some session := (findKey_eq_some h.nodup).mpr ⟨hmem, hid⟩
  refine ⟨session, hmem, ?_, hid⟩
  unfold Model.activeSession
  rw [hfind]
  rfl

theorem WellFormed.isReady_iff (h : WellFormed m) {session : Session} (hmem : session ∈ m.sessionSlots) :
    IsReady m session.id ↔ session.mode = .agent ∧ session.agentConnection = .ready := by
  constructor
  · intro ⟨other, hother, hid, hready⟩
    rwa [List.inj_on_of_nodup_map h.nodup hother hmem hid] at hready
  · intro hready
    exact ⟨session, hmem, rfl, hready⟩

theorem WellFormed.isReady_active (h : WellFormed m) :
    IsReady m m.activeSessionId ↔ m.activeMode = .agent ∧ m.activeConnection = .ready := by
  obtain ⟨session, hmem, hactive, hid⟩ := h.activeSession
  rw [← hid, h.isReady_iff hmem]
  unfold Model.activeMode Model.activeConnection
  rw [hactive]
  rfl

theorem sessionIds_setAgentConnection (m : Model) (sessionId : UInt8) (connection : AgentConnection) :
    (m.setAgentConnection sessionId connection).sessionIds = m.sessionIds :=
  (sameContents_setAgentConnection m sessionId connection).ids

/-- A session keeps its connection while that of another changes. -/
theorem IsReady.setAgentConnection {sessionId other : UInt8} (h : IsReady m sessionId) (hne : sessionId ≠ other)
    (connection : AgentConnection) : IsReady (m.setAgentConnection other connection) sessionId := by
  obtain ⟨session, hmem, hid, hready⟩ := h
  refine ⟨session, ?_, hid, hready⟩
  unfold Model.setAgentConnection
  dsimp only
  generalize m.sessionSlots = slots at hmem
  induction slots with
  | nil => cases hmem
  | cons first rest ih =>
      unfold updateFirst
      split
      · next hfirst =>
          obtain rfl | hrest := List.mem_cons.mp hmem
          · exact absurd (hid.symm.trans (of_decide_eq_true hfirst).1) hne
          · exact List.mem_cons_of_mem _ hrest
      · obtain rfl | hrest := List.mem_cons.mp hmem
        · exact List.mem_cons_self
        · exact List.mem_cons_of_mem _ (ih hrest)

theorem isReady_setAgentConnection {session : Session} (hmem : session ∈ m.sessionSlots)
    (hmode : session.mode = .agent) : IsReady (m.setAgentConnection session.id .ready) session.id := by
  unfold IsReady Model.setAgentConnection
  dsimp only
  generalize m.sessionSlots = slots at hmem
  induction slots with
  | nil => cases hmem
  | cons first rest ih =>
      unfold updateFirst
      split
      · next hfirst =>
          obtain ⟨hid, hagent⟩ := of_decide_eq_true hfirst
          exact ⟨{ first with agentConnection := .ready }, List.mem_cons_self, hid, hagent, rfl⟩
      · next hfirst =>
          obtain rfl | hrest := List.mem_cons.mp hmem
          · exact absurd (decide_eq_true ⟨rfl, hmode⟩) hfirst
          · obtain ⟨s, hs, hready⟩ := ih hrest
            exact ⟨s, List.mem_cons_of_mem _ hs, hready⟩

/-! ## Opening, choosing and closing -/

/-- A session is opened under the next id, and is active. -/
structure OpensNext (m m' : Model) : Prop where
  limit : m.sessionSlots.length < maxSessions
  ids : m'.sessionIds = m.sessionIds ++ [m.nextSessionId]
  ready : StaysReady m m'
  active : m'.activeSessionId = m.nextSessionId

theorem OpensNext.sameSessions (h : OpensNext m m') (hsame : SameSessions m' m'') : OpensNext m m'' := by
  refine ⟨h.limit, hsame.sessionIds.trans h.ids, ⟨fun s hs hmem => ?_, hsame.baseUrl.trans h.ready.baseUrl⟩,
    hsame.active.trans h.active⟩
  exact hsame.staysReady.ready s (h.ready.ready s hs (hsame.sessionIds ▸ hmem)) hmem

theorem opensNext_appendSession {mode : SessionMode} {opened : Model × UInt8}
    (h : m.appendSession mode = some opened) : OpensNext m opened.1 ∧ opened.2 = m.nextSessionId := by
  unfold Model.appendSession at h
  split at h
  · cases h
  · next hlimit =>
      obtain rfl := Option.some.inj h
      refine ⟨⟨Nat.lt_of_not_le hlimit, List.map_append, ⟨?_, rfl⟩, rfl⟩, rfl⟩
      intro s ⟨session, hmem, hready⟩ _
      exact ⟨session, List.mem_append_left _ hmem, hready⟩

theorem opened_chooseTerminal (m : Model) :
    SameSessions m m.chooseTerminal.1 ∨ OpensNext m m.chooseTerminal.1 := by
  unfold Model.chooseTerminal
  cases happend : m.appendSession .terminal with
  | none => exact Or.inl (SameSessions.refl m)
  | some opened =>
      exact Or.inr ((opensNext_appendSession happend).1.sameSessions (sameSessions_mark opened.1))

theorem opened_createAgentSession (hnext : m.nextSessionId ∉ m.sessionIds) (provider : AgentProvider) :
    SameSessions m (m.createAgentSession provider).1 ∨ OpensNext m (m.createAgentSession provider).1 := by
  unfold Model.createAgentSession
  split
  · exact Or.inl (SameSessions.refl m)
  · dsimp only
    cases happend : Model.appendSession { m with selectedAgentProvider := provider } .agent with
    | none => exact Or.inl ⟨rfl, rfl, rfl⟩
    | some opened =>
        obtain ⟨hopens, hid⟩ := opensNext_appendSession happend
        have hopens' : OpensNext m opened.1 :=
          ⟨hopens.limit, hopens.ids, ⟨hopens.ready.ready, hopens.ready.baseUrl⟩, hopens.active⟩
        refine Or.inr (OpensNext.sameSessions ?_ (sameSessions_mark _))
        split
        · unfold Model.requestAgentStart
          split
          · exact hopens'
          · -- the new session starts to connect
            refine ⟨hopens'.limit, (sessionIds_setAgentConnection _ _ _).trans hopens'.ids, ⟨fun s hs hmem => ?_,
              hopens'.ready.baseUrl⟩, hopens'.active⟩
            have hne : s ≠ opened.2 := fun heq => hnext (hid ▸ heq ▸ hs.mem)
            rw [sessionIds_setAgentConnection] at hmem
            exact (hopens'.ready.ready s hs hmem).setAgentConnection hne _
        · exact hopens'

theorem opened_openProviderLoginTerminal (m : Model) (provider : AgentProvider) :
    SameSessions m (m.openProviderLoginTerminal provider).1 ∨ OpensNext m (m.openProviderLoginTerminal provider).1 := by
  unfold Model.openProviderLoginTerminal
  split
  · exact Or.inl (SameSessions.refl m)
  · exact opened_chooseTerminal m

/-- Choosing a session leaves the sessions as they are. -/
theorem slots_chooseSession (m : Model) (sessionId : UInt8) :
    (m.chooseSession sessionId).1.sessionSlots = m.sessionSlots ∧
      (m.chooseSession sessionId).1.agentBaseUrl = m.agentBaseUrl := by
  have hselect : (m.saveActiveAgentComposer.selectSession sessionId).sessionSlots = m.sessionSlots ∧
      (m.saveActiveAgentComposer.selectSession sessionId).agentBaseUrl = m.agentBaseUrl := by
    unfold Model.selectSession
    split <;> exact ⟨rfl, rfl⟩
  unfold Model.chooseSession
  dsimp only
  split
  · exact hselect
  · have hmark := sameSessions_mark (m.saveActiveAgentComposer.selectSession sessionId).loadActiveAgentComposer
    exact ⟨hmark.slots.trans hselect.1, hmark.baseUrl.trans hselect.2⟩

/-- A session is closed, and another one is active if it was. -/
structure Closed (m m' : Model) (sessionId : UInt8) : Prop where
  closed : sessionId ∉ m'.sessionIds
  ids : ∀ other ∈ m'.sessionIds, other ∈ m.sessionIds
  stays : ∀ other ∈ m.sessionIds, other ≠ sessionId → other ∈ m'.sessionIds
  ready : StaysReady m m'
  active : m.activeSessionId ≠ sessionId → m'.activeSessionId = m.activeSessionId

theorem closeSession_cases (h : WellFormed m) (sessionId : UInt8) (hlength : m.sessionSlots.length ≠ 1) :
    m.findSession sessionId = none ∧ SameSessions m (m.closeSession sessionId).1 ∨
      (∃ session, m.findSession sessionId = some session) ∧ Closed m (m.closeSession sessionId).1 sessionId := by
  unfold Model.closeSession
  dsimp only
  cases hfind : m.saveActiveAgentComposer.sessionSlots.findIdx? fun session => session.id = sessionId with
  | none =>
      refine Or.inl ⟨?_, ⟨rfl, rfl, rfl⟩⟩
      refine find?_key_eq_none.mpr fun session hmem hid => ?_
      have hnone := List.findIdx?_eq_none_iff.mp hfind session hmem
      exact absurd (decide_eq_true hid) (by rw [hnone]; decide)
  | some index =>
      obtain ⟨session, hsession, hid⟩ := (findIdx?_key_eq_some h.nodup).mp hfind
      have hmem : session ∈ m.sessionSlots := List.mem_of_getElem? hsession
      refine Or.inr ⟨⟨session, (findKey_eq_some h.nodup).mpr ⟨hmem, hid⟩⟩, ?_⟩
      dsimp only
      have hlength' : ¬m.saveActiveAgentComposer.sessionSlots.length = 1 := hlength
      rw [if_neg hlength']
      have hmark := sameSessions_mark (Model.eraseSession { m.saveActiveAgentComposer with
        activeSessionId := if m.saveActiveAgentComposer.activeSessionId = sessionId
          then m.saveActiveAgentComposer.neighbour index else m.saveActiveAgentComposer.activeSessionId }
        index).loadActiveAgentComposer
      have hids := hmark.sessionIds.trans (sessionIds_eraseSession _ index)
      have hget' : m.sessionIds[index]? = some sessionId := by
        unfold Model.sessionIds
        rw [List.getElem?_map, hsession, ← hid]
        rfl
      have hclosed : sessionId ∉ m.sessionIds.eraseIdx index := by
        intro hin
        obtain ⟨j, hj, hget⟩ := List.mem_eraseIdx_iff_getElem?.mp hin
        obtain ⟨hlt, hj'⟩ := List.getElem?_eq_some_iff.mp hget
        obtain ⟨hlt', hindex'⟩ := List.getElem?_eq_some_iff.mp hget'
        exact hj ((h.nodup.getElem_inj_iff).mp (hj'.trans hindex'.symm))
      refine ⟨?_, ?_, ?_, ⟨?_, hmark.baseUrl⟩, fun hne => hmark.active.trans (if_neg hne)⟩
      · rw [hids]
        exact hclosed
      · intro other hother
        rw [hids] at hother
        exact List.mem_of_mem_eraseIdx hother
      · intro other hother hne
        rw [hids]
        obtain ⟨j, hj⟩ := List.getElem?_of_mem hother
        refine List.mem_eraseIdx_iff_getElem?.mpr ⟨j, fun heq => hne ?_, hj⟩
        rw [heq] at hj
        exact Option.some_inj.mp (hj.symm.trans hget')
      · intro other ⟨s, hs, hsid, hready⟩ hother
        unfold IsReady
        rw [hmark.slots]
        refine ⟨s, ?_, hsid, hready⟩
        obtain ⟨j, hj⟩ := List.getElem?_of_mem hs
        refine List.mem_eraseIdx_iff_getElem?.mpr ⟨j, ?_, hj⟩
        intro heq
        rw [hids] at hother
        rw [heq] at hj
        have hsame : s = session := Option.some_inj.mp (hj.symm.trans hsession)
        have hsameId : other = sessionId := by rw [← hsid, hsame, hid]
        exact hclosed (hsameId ▸ hother)

/-! ## The invariant -/

section Worlds

variable {D : Digests} {wyhash : String → Nat} {w w' : ProjectionWorld D} {published : Nat} {sessionId : UInt8}

/-- At most one snapshot is asked for, and what is open is of sessions that are ready. -/
structure Waits (w : ProjectionWorld D) : Prop where
  holding : ∃ kept, Holding kept w.model.toModel
  requested : w.requests.map SnapshotRequest.sessionId =
    if w.model.agentSnapshotInFlightSessionId = 0 then [] else [w.model.agentSnapshotInFlightSessionId]
  within : ∀ request ∈ w.requests, request.published ≤ (w.documents request.sessionId).events.length
  requestReady : ∀ request ∈ w.requests, request.sessionId ∈ w.model.sessionIds →
    IsReady w.model.toModel request.sessionId
  streamReady : w.model.agentStreamSessionId ≠ 0 →
    IsReady w.model.toModel w.model.agentStreamSessionId ∧ w.model.writesUrl = true

/-- What is shown was published before it is asked for again, and only a session that is ready shows anything. -/
structure Renders (wyhash : String → Nat) (w : ProjectionWorld D) (published : Nat) : Prop
    extends Projects wyhash w published where
  later : ∀ request ∈ w.requests, request.sessionId = w.model.activeSessionId → published ≤ request.published
  quiet : ¬IsReady w.model.toModel w.model.activeSessionId → published = 0 ∧ w.model.agentSnapshotResyncRevision = 0
  url : w.model.agentSnapshotResyncRevision ≠ 0 → w.model.writesUrl = true

/-- A refresh is on its way wherever one is owed. -/
def Asked (w : ProjectionWorld D) : Prop :=
  w.model.agentSnapshotResyncRevision ≠ 0 → w.requests ≠ [] ∨ w.model.activeSessionId ∈ w.timers

/-- What is shown stays, while the client asks for more. -/
structure SameShown (w w' : ProjectionWorld D) : Prop where
  agent : w'.model.toAgentModel = w.model.toAgentModel
  projection : w'.model.projection = w.model.projection
  revision : w'.model.agentDocumentRevision = w.model.agentDocumentRevision
  resync : w'.model.agentSnapshotResyncRevision = w.model.agentSnapshotResyncRevision
  documents : w'.documents = w.documents

theorem SameShown.refl (w : ProjectionWorld D) : SameShown w w := ⟨rfl, rfl, rfl, rfl, rfl⟩

theorem SameShown.trans {w'' : ProjectionWorld D} (h : SameShown w w') (h' : SameShown w' w'') : SameShown w w'' :=
  ⟨h'.agent.trans h.agent, h'.projection.trans h.projection, h'.revision.trans h.revision, h'.resync.trans h.resync,
    h'.documents.trans h.documents⟩

theorem SameShown.model (h : SameShown w w') : w'.model.toModel = w.model.toModel := congrArg AgentModel.toModel h.agent

/-- What is shown renders the same, with requests that are as new. -/
theorem Renders.sameShown (h : Renders wyhash w published) (hsame : SameShown w w')
    (hlater : ∀ request ∈ w'.requests, request.sessionId = w.model.activeSessionId → published ≤ request.published) :
    Renders wyhash w' published := by
  have hmodel := hsame.model
  have hactive : w'.model.activeSessionId = w.model.activeSessionId := congrArg Model.activeSessionId hmodel
  refine ⟨⟨?_, ?_, ?_⟩, ?_, ?_, ?_⟩
  · rw [hactive, hsame.documents]
    exact h.within
  · rw [hactive, hsame.documents, hsame.revision]
    exact h.revision
  · rw [hactive, hsame.documents, hsame.projection]
    exact h.projection
  · rw [hactive]
    exact hlater
  · rw [hmodel, hsame.resync]
    exact h.quiet
  · rw [hmodel, hsame.resync]
    exact h.url

theorem Waits.wellFormed (h : Waits w) : WellFormed w.model.toModel := h.holding.elim fun _ hk => hk.wellFormed

theorem Waits.requests_eq_nil (h : Waits w) : w.requests = [] ↔ w.model.agentSnapshotInFlightSessionId = 0 := by
  rw [← List.map_eq_nil_iff, h.requested]
  split
  · next h0 => exact ⟨fun _ => h0, fun _ => rfl⟩
  · next h0 => exact ⟨fun hnil => absurd hnil (List.cons_ne_nil _ _), fun hin => absurd hin h0⟩

theorem IsReady.ne_zero (h : WellFormed m) (hready : IsReady m sessionId) : sessionId ≠ 0 :=
  fun h0 => h.nonzero (h0 ▸ hready.mem)

/-! ## Asking -/

namespace ProjectionWorld

theorem sameShown_requestAgentSnapshot (w : ProjectionWorld D) (sessionId : UInt8) :
    SameShown w (w.requestAgentSnapshot sessionId) := by
  unfold requestAgentSnapshot
  split
  · exact SameShown.refl w
  · exact ⟨rfl, rfl, rfl, rfl, rfl⟩

theorem sameShown_requestAgentStream (w : ProjectionWorld D) (sessionId : UInt8) :
    SameShown w (w.requestAgentStream sessionId) ∧ (w.requestAgentStream sessionId).requests = w.requests := by
  unfold requestAgentStream
  split
  · exact ⟨SameShown.refl w, rfl⟩
  · exact ⟨⟨rfl, rfl, rfl, rfl, rfl⟩, rfl⟩

theorem sameShown_cancelAgentStream (w : ProjectionWorld D) (sessionId : UInt8) :
    SameShown w (w.cancelAgentStream sessionId) ∧ (w.cancelAgentStream sessionId).requests = w.requests ∧
      (w.cancelAgentStream sessionId).timers = w.timers := by
  unfold cancelAgentStream
  split
  · exact ⟨SameShown.refl w, rfl, rfl⟩
  · exact ⟨⟨rfl, rfl, rfl, rfl, rfl⟩, rfl, rfl⟩

theorem cancelAgentStream_tellAgent (w : ProjectionWorld D) (agent : AgentModel) (sessionId : UInt8) :
    (w.tellAgent agent).cancelAgentStream sessionId = (w.cancelAgentStream sessionId).tellAgent agent := by
  unfold cancelAgentStream
  by_cases h : w.model.agentStreamSessionId ≠ sessionId
  · rw [if_pos h]
    exact if_pos h
  · rw [if_neg h]
    exact if_neg h

end ProjectionWorld

theorem Waits.requestAgentSnapshot (h : Waits w) (hready : IsReady w.model.toModel sessionId) :
    Waits (w.requestAgentSnapshot sessionId) := by
  unfold ProjectionWorld.requestAgentSnapshot
  split
  · exact h
  · next hguard =>
      have hnil := h.requests_eq_nil.mpr (not_not.mp (not_or.mp hguard).1)
      rw [hnil]
      refine ⟨h.holding, (if_neg (hready.ne_zero h.wellFormed)).symm, ?_, ?_, h.streamReady⟩
      · intro request hrequest
        rw [List.mem_singleton.mp hrequest]
      · intro request hrequest _
        rw [List.mem_singleton.mp hrequest]
        exact hready

/-- A snapshot is on its way once it is asked for. -/
theorem Waits.asked_requestAgentSnapshot (h : Waits w) (hurl : w.model.writesUrl = true) (sessionId : UInt8) :
    (w.requestAgentSnapshot sessionId).requests ≠ [] := by
  unfold ProjectionWorld.requestAgentSnapshot
  split
  · next hguard => exact fun hnil => hguard.elim (fun hin => hin (h.requests_eq_nil.mp hnil)) (by rw [hurl]; decide)
  · exact List.append_ne_nil_of_right_ne_nil _ (List.cons_ne_nil _ _)

theorem Renders.requestAgentSnapshot (h : Renders wyhash w published) (sessionId : UInt8) :
    Renders wyhash (w.requestAgentSnapshot sessionId) published := by
  refine h.sameShown (w.sameShown_requestAgentSnapshot sessionId) ?_
  unfold ProjectionWorld.requestAgentSnapshot
  split
  · exact h.later
  · intro request hrequest hid
    obtain hold | hnew := List.mem_append.mp hrequest
    · exact h.later request hold hid
    · rw [List.mem_singleton.mp hnew] at hid ⊢
      dsimp only at hid ⊢
      rw [hid]
      exact h.within

theorem Waits.requestAgentStream (h : Waits w) (hready : IsReady w.model.toModel sessionId) :
    Waits (w.requestAgentStream sessionId) := by
  unfold ProjectionWorld.requestAgentStream
  split
  · exact h
  · next hguard =>
      refine ⟨h.holding, h.requested, h.within, h.requestReady, fun _ => ⟨hready, ?_⟩⟩
      exact Bool.of_not_eq_false (not_or.mp hguard).2

theorem Renders.requestAgentStream (h : Renders wyhash w published) (sessionId : UInt8) :
    Renders wyhash (w.requestAgentStream sessionId) published := by
  obtain ⟨hsame, hrequests⟩ := w.sameShown_requestAgentStream sessionId
  exact h.sameShown hsame (hrequests ▸ h.later)

theorem Waits.cancelAgentStream (h : Waits w) (sessionId : UInt8) : Waits (w.cancelAgentStream sessionId) := by
  unfold ProjectionWorld.cancelAgentStream
  split
  · exact h
  · exact ⟨h.holding, h.requested, h.within, h.requestReady, fun h0 => absurd rfl h0⟩

theorem Renders.cancelAgentStream (h : Renders wyhash w published) (sessionId : UInt8) :
    Renders wyhash (w.cancelAgentStream sessionId) published := by
  obtain ⟨hsame, hrequests, -⟩ := w.sameShown_cancelAgentStream sessionId
  exact h.sameShown hsame (hrequests ▸ h.later)

theorem Waits.scheduleAgentRefresh (h : Waits w) (sessionId : UInt8) : Waits (w.scheduleAgentRefresh sessionId) :=
  ⟨h.holding, h.requested, h.within, h.requestReady, h.streamReady⟩

theorem Renders.scheduleAgentRefresh (h : Renders wyhash w published) (sessionId : UInt8) :
    Renders wyhash (w.scheduleAgentRefresh sessionId) published :=
  h.sameShown ⟨rfl, rfl, rfl, rfl, rfl⟩ h.later

/-- What a session that is active and ready asks for. -/
theorem Waits.requestActive_cases (h : Waits w) :
    w.requestActiveAgentStream =
        (w.requestAgentSnapshot w.model.activeSessionId).requestAgentStream w.model.activeSessionId ∧
        IsReady w.model.toModel w.model.activeSessionId ∨
      w.requestActiveAgentStream = w ∧ ¬IsReady w.model.toModel w.model.activeSessionId := by
  obtain ⟨session, hmem, hactive, hid⟩ := h.wellFormed.activeSession
  unfold ProjectionWorld.requestActiveAgentStream
  rw [hactive, ← hid, h.wellFormed.isReady_iff hmem]
  dsimp only
  split
  · next hready => exact Or.inl ⟨rfl, hready⟩
  · next hready => exact Or.inr ⟨rfl, hready⟩

theorem Waits.requestActive (h : Waits w) : Waits w.requestActiveAgentStream := by
  obtain ⟨heq, hready⟩ | ⟨heq, -⟩ := h.requestActive_cases
  · rw [heq]
    have hready' : IsReady (w.requestAgentSnapshot w.model.activeSessionId).model.toModel w.model.activeSessionId := by
      rw [(w.sameShown_requestAgentSnapshot w.model.activeSessionId).model]
      exact hready
    exact (h.requestAgentSnapshot hready).requestAgentStream hready'
  · rw [heq]
    exact h

theorem Renders.requestActive (h : Renders wyhash w published) (hw : Waits w) :
    Renders wyhash w.requestActiveAgentStream published := by
  obtain ⟨heq, -⟩ | ⟨heq, -⟩ := hw.requestActive_cases
  · rw [heq]
    exact (h.requestAgentSnapshot _).requestAgentStream _
  · rw [heq]
    exact h

theorem sameShown_requestActive (h : Waits w) : SameShown w w.requestActiveAgentStream := by
  obtain ⟨heq, -⟩ | ⟨heq, -⟩ := h.requestActive_cases
  · rw [heq]
    exact (w.sameShown_requestAgentSnapshot _).trans (ProjectionWorld.sameShown_requestAgentStream _ _).1
  · rw [heq]
    exact SameShown.refl w

/-- The active session asks for what it is owed. -/
theorem Renders.asked_requestActive (h : Renders wyhash w published) (hw : Waits w) :
    Asked w.requestActiveAgentStream := by
  intro howed
  rw [(sameShown_requestActive hw).resync] at howed
  obtain ⟨heq, -⟩ | ⟨-, hready⟩ := hw.requestActive_cases
  · rw [heq, (ProjectionWorld.sameShown_requestAgentStream _ _).2]
    exact Or.inl (hw.asked_requestAgentSnapshot (h.url howed) _)
  · exact absurd (h.quiet hready).2 howed

/-! ## One event -/

/-- What an event leaves, and that what is shown has not gone back. -/
structure Stepped (wyhash : String → Nat) (w w' : ProjectionWorld D) : Prop where
  waits : Waits w'
  renders : ∃ published, Renders wyhash w' published
  asked : Asked w'
  revision : w'.model.activeSessionId = w.model.activeSessionId →
    w.model.agentDocumentRevision ≤ w'.model.agentDocumentRevision

variable {agent : AgentModel}

theorem Waits.tellAgent (h : Waits w) (hk : ∃ kept, Holding kept agent.toModel)
    (hready : StaysReady w.model.toModel agent.toModel)
    (hids : ∀ request ∈ w.requests, request.sessionId ∈ agent.sessionIds → request.sessionId ∈ w.model.sessionIds)
    (hstream : w.model.agentStreamSessionId ≠ 0 → w.model.agentStreamSessionId ∈ agent.sessionIds) :
    Waits (w.tellAgent agent) := by
  refine ⟨hk, h.requested, h.within, fun request hrequest hmem => ?_, fun hne => ⟨?_, ?_⟩⟩
  · exact hready.ready _ (h.requestReady request hrequest (hids request hrequest hmem)) hmem
  · exact hready.ready _ (h.streamReady hne).1 (hstream hne)
  · exact hready.writesUrl.trans (h.streamReady hne).2

/-- The sessions stay as they are. -/
theorem Waits.tellSame (h : Waits w) (hk : ∃ kept, Holding kept agent.toModel)
    (hsame : SameSessions w.model.toModel agent.toModel) : Waits (w.tellAgent agent) :=
  h.tellAgent hk hsame.staysReady (fun _ _ hmem => hsame.sessionIds ▸ hmem) fun hne =>
    hsame.sessionIds ▸ (h.streamReady hne).1.mem

/-- What is shown stays while the active session does, and is no less ready. -/
theorem Renders.told (h : Renders wyhash w published) (hactive : agent.activeSessionId = w.model.activeSessionId)
    (hready : IsReady w.model.toModel w.model.activeSessionId → IsReady agent.toModel w.model.activeSessionId)
    (hurl : agent.writesUrl = w.model.writesUrl) : Renders wyhash (w.tellAgent agent) published := by
  have hactive' : (w.tellAgent agent).model.activeSessionId = w.model.activeSessionId := hactive
  refine ⟨⟨?_, ?_, ?_⟩, ?_, ?_, fun howed => hurl.trans (h.url howed)⟩
  · rw [hactive']
    exact h.within
  · rw [hactive']
    exact h.revision
  · rw [hactive']
    exact h.projection
  · rw [hactive']
    exact h.later
  · rw [hactive']
    exact fun hnot => h.quiet fun hwas => hnot (hready hwas)

theorem Renders.tellSame (h : Renders wyhash w published) (hsame : SameSessions w.model.toModel agent.toModel) :
    Renders wyhash (w.tellAgent agent) published :=
  h.told hsame.active (fun hready => hsame.staysReady.ready _ hready (hsame.sessionIds ▸ hready.mem))
    hsame.staysReady.writesUrl

theorem isReady_tellSame (hsame : SameSessions w.model.toModel agent.toModel)
    (hready : IsReady w.model.toModel w.model.activeSessionId) :
    IsReady (w.tellAgent agent).model.toModel (w.tellAgent agent).model.activeSessionId := by
  have hactive : (w.tellAgent agent).model.activeSessionId = w.model.activeSessionId := hsame.active
  rw [hactive]
  exact hsame.staysReady.ready _ hready (hsame.sessionIds ▸ hready.mem)

theorem Asked.tellSame (h : Asked w) (hsame : SameSessions w.model.toModel agent.toModel) :
    Asked (w.tellAgent agent) := by
  intro howed
  have hactive : (w.tellAgent agent).model.activeSessionId = w.model.activeSessionId := hsame.active
  rw [hactive]
  exact h howed

theorem Waits.clear (h : Waits w) : Waits w.clearAgentProjection :=
  ⟨h.holding, h.requested, h.within, h.requestReady, h.streamReady⟩

theorem projectAgentBlocks_nil : projectAgentBlocks wyhash [] = {} := by
  unfold projectAgentBlocks shownGroups
  rfl

/-- A session that is chosen shows its document from the start. -/
theorem renders_clear (wyhash : String → Nat) (w : ProjectionWorld D) : Renders wyhash w.clearAgentProjection 0 := by
  refine ⟨⟨Nat.zero_le _, rfl, ?_⟩, fun _ _ _ => Nat.zero_le _, fun _ => ⟨rfl, rfl⟩, fun h => absurd rfl h⟩
  rw [Document.blocks_zero, projectAgentBlocks_nil]
  rfl

/-- Nothing but the sessions of the client has changed, and the active one is the same. -/
theorem stepped_same (hw : Waits w) (hr : Renders wyhash w published) (ha : Asked w)
    (hk : ∃ kept, Holding kept agent.toModel) (hsame : SameSessions w.model.toModel agent.toModel) :
    Stepped wyhash w (w.tellAgent agent) :=
  ⟨hw.tellSame hk hsame, ⟨published, hr.tellSame hsame⟩, ha.tellSame hsame, fun _ => le_rfl⟩

/-- A session is opened. -/
theorem stepped_opened (hw : Waits w) (hr : Renders wyhash w published) (ha : Asked w) {m' : Model}
    (hk : ∃ kept, Holding kept m') (hopened : SameSessions w.model.toModel m' ∨ OpensNext w.model.toModel m')
    (hblank : w.model.sessionSlots.length < maxSessions → w.model.projection = {} ∧ w.model.agentDocumentRevision = 0 ∧
      w.model.agentSnapshotResyncRevision = 0 ∧ ∀ request ∈ w.requests, request.sessionId ≠ w.model.nextSessionId) :
    Stepped wyhash w (w.tellAgent { w.model.toAgentModel with toModel := m' }) := by
  obtain hsame | hopens := hopened
  · exact stepped_same hw hr ha hk hsame
  · obtain ⟨hprojection, hrevision, hresync, hrequests⟩ := hblank hopens.limit
    refine ⟨hw.tellAgent hk hopens.ready ?_ ?_, ⟨0, ⟨⟨Nat.zero_le _, hrevision, ?_⟩, fun _ _ _ => Nat.zero_le _,
      fun _ => ⟨rfl, hresync⟩, fun howed => absurd hresync howed⟩⟩, fun howed => absurd hresync howed, fun _ => le_rfl⟩
    · intro request hrequest hmem
      have hmem' : request.sessionId ∈ w.model.sessionIds ++ [w.model.nextSessionId] := hopens.ids ▸ hmem
      obtain hold | hnew := List.mem_append.mp hmem'
      · exact hold
      · exact absurd (List.mem_singleton.mp hnew) (hrequests request hrequest)
    · intro hne
      show _ ∈ m'.sessionIds
      rw [hopens.ids]
      exact List.mem_append_left _ (hw.streamReady hne).1.mem
    · show w.model.projection = _
      rw [Document.blocks_zero, projectAgentBlocks_nil]
      exact hprojection

theorem stepped_selectSession (hw : Waits w) (hr : Renders wyhash w published) (ha : Asked w) (sessionId : UInt8) :
    Stepped wyhash w (w.selectSession sessionId) := by
  obtain ⟨kept, hkept⟩ := hw.holding
  have hmodel := toModel_selectSession w.model.toAgentModel sessionId
  have hk : ∃ kept, Holding kept (w.model.toAgentModel.selectSession sessionId).toModel :=
    ⟨kept, hmodel ▸ (retabbed_chooseSession hkept.wellFormed hkept.keeps sessionId).holding⟩
  obtain ⟨hslots, hbase⟩ := slots_chooseSession w.model.toModel sessionId
  rw [← hmodel] at hslots hbase
  unfold ProjectionWorld.selectSession
  dsimp only
  split
  · next hactive => exact stepped_same hw hr ha hk ⟨hslots, hactive, hbase⟩
  · next hactive =>
      have hids : (w.model.toAgentModel.selectSession sessionId).sessionIds = w.model.sessionIds := by
        unfold Model.sessionIds
        rw [hslots]
      have hselected : Waits (w.tellAgent (w.model.toAgentModel.selectSession sessionId)) := by
        refine hw.tellAgent hk ⟨fun s hs _ => ?_, hbase⟩ (fun request _ hmem => hids ▸ hmem) fun hne =>
          hids ▸ (hw.streamReady hne).1.mem
        unfold IsReady
        rw [hslots]
        exact hs
      have hcleared := (hselected.cancelAgentStream w.model.activeSessionId).clear
      have hrenders := renders_clear wyhash
        ((w.tellAgent (w.model.toAgentModel.selectSession sessionId)).cancelAgentStream w.model.activeSessionId)
      refine ⟨hcleared.requestActive, ⟨0, hrenders.requestActive hcleared⟩, hrenders.asked_requestActive hcleared, ?_⟩
      intro hsame
      have hshown := sameShown_requestActive hcleared
      have hcancel := ((w.tellAgent (w.model.toAgentModel.selectSession sessionId)).sameShown_cancelAgentStream
        w.model.activeSessionId).1
      rw [congrArg Model.activeSessionId hshown.model] at hsame
      exact absurd ((congrArg Model.activeSessionId hcancel.model).symm.trans hsame) hactive

/-- Sessions whose connections change otherwise than by becoming ready show what they showed. -/
theorem Renders.tellAgent (h : Renders wyhash w published) (hready : StaysReady w.model.toModel agent.toModel)
    (hactive : agent.activeSessionId = w.model.activeSessionId) (hmem : w.model.activeSessionId ∈ agent.sessionIds) :
    Renders wyhash (w.tellAgent agent) published :=
  h.told hactive (fun hwas => hready.ready _ hwas hmem) hready.writesUrl

theorem stepped_closeSession (hw : Waits w) (hr : Renders wyhash w published) (ha : Asked w) (sessionId : UInt8)
    (hlength : w.model.sessionSlots.length ≠ 1) : Stepped wyhash w (w.closeSession sessionId) := by
  obtain ⟨kept, hkept⟩ := hw.holding
  have hmodel := toModel_closeSession w.model.toAgentModel sessionId
  have hk : Holding kept (w.model.toAgentModel.closeSession sessionId).toModel :=
    hmodel ▸ (retabbed_closeSession hkept.wellFormed hkept.keeps sessionId).holding
  unfold ProjectionWorld.closeSession
  dsimp only
  obtain ⟨hfind, hsame⟩ | ⟨⟨session, hfind⟩, hclosed⟩ := closeSession_cases hkept.wellFormed sessionId hlength
  · rw [hfind]
    exact stepped_same hw hr ha ⟨kept, hk⟩ (hmodel ▸ hsame)
  · rw [hfind]
    dsimp only
    rw [← hmodel] at hclosed
    obtain ⟨hmem, hid⟩ := (findKey_eq_some hkept.wellFormed.nodup).mp hfind
    -- the stream and the timer of the session go first
    obtain ⟨w₁, hw₁⟩ : ∃ w₁ : ProjectionWorld D, w₁ = if session.mode = .agent then
        ProjectionWorld.cancelAgentStream { w with timers := w.timers.filter fun timer => timer ≠ sessionId } sessionId
      else w := ⟨_, rfl⟩
    have hquiet : (if session.mode = .agent then
          ProjectionWorld.cancelAgentStream { w.tellAgent (w.model.toAgentModel.closeSession sessionId) with
            timers := w.timers.filter fun timer => timer ≠ sessionId } sessionId
        else w.tellAgent (w.model.toAgentModel.closeSession sessionId)) =
        w₁.tellAgent (w.model.toAgentModel.closeSession sessionId) := by
      rw [hw₁]
      split
      · exact ProjectionWorld.cancelAgentStream_tellAgent
          { w with timers := w.timers.filter fun timer => timer ≠ sessionId } _ _
      · rfl
    have hsame : SameShown w w₁ ∧ w₁.requests = w.requests ∧ Waits w₁ ∧
        (∀ timer ∈ w.timers, timer ≠ sessionId → timer ∈ w₁.timers) ∧
        (w₁.model.agentStreamSessionId ≠ 0 → w₁.model.agentStreamSessionId ≠ sessionId) := by
      rw [hw₁]
      split
      · have hfiltered : Waits { w with timers := w.timers.filter fun timer => timer ≠ sessionId } :=
          ⟨hw.holding, hw.requested, hw.within, hw.requestReady, hw.streamReady⟩
        obtain ⟨hshown, hrequests, htimers⟩ := ProjectionWorld.sameShown_cancelAgentStream
          ({ w with timers := w.timers.filter fun timer => timer ≠ sessionId } : ProjectionWorld D) sessionId
        refine ⟨⟨hshown.agent, hshown.projection, hshown.revision, hshown.resync, hshown.documents⟩, hrequests,
          hfiltered.cancelAgentStream sessionId, ?_, ?_⟩
        · intro timer htimer hne
          rw [htimers]
          exact List.mem_filter.mpr ⟨htimer, decide_eq_true hne⟩
        · unfold ProjectionWorld.cancelAgentStream
          split
          · next hother => exact fun _ => hother
          · exact fun h0 => absurd rfl h0
      · next hmode =>
          refine ⟨SameShown.refl w, rfl, hw, fun _ htimer _ => htimer, fun hne heq => hmode ?_⟩
          have hready := (hw.streamReady hne).1
          rw [heq, ← hid, hkept.wellFormed.isReady_iff hmem] at hready
          exact hready.1
    obtain ⟨hshown, hrequests, hwaits, htimers, hstream⟩ := hsame
    have hmodel₁ := hshown.model
    rw [hquiet]
    have hsessions : Waits (w₁.tellAgent (w.model.toAgentModel.closeSession sessionId)) := by
      refine hwaits.tellAgent ⟨kept, hk⟩ ?_ ?_ ?_
      · rw [hmodel₁, hmodel]
        exact hmodel ▸ hclosed.ready
      · intro request _ hrequest
        rw [hmodel₁]
        exact hclosed.ids _ hrequest
      · intro hne
        refine hclosed.stays _ ?_ (hstream hne)
        exact hmodel₁ ▸ (hwaits.streamReady hne).1.mem
    split
    · next hactive =>
        have hcleared := hsessions.clear
        have hrenders := renders_clear wyhash (w₁.tellAgent (w.model.toAgentModel.closeSession sessionId))
        refine ⟨hcleared.requestActive, ⟨0, hrenders.requestActive hcleared⟩, hrenders.asked_requestActive hcleared, ?_⟩
        intro hsame
        rw [congrArg Model.activeSessionId (sameShown_requestActive hcleared).model] at hsame
        have hmem' := hk.wellFormed.active
        have hgone : (w.model.toAgentModel.closeSession sessionId).activeSessionId = sessionId := hsame.trans hactive
        rw [hgone] at hmem'
        exact absurd hmem' hclosed.closed
    · next hactive =>
        have hactive' := hclosed.active hactive
        have hrenders₁ : Renders wyhash w₁ published := hr.sameShown hshown (hrequests ▸ hr.later)
        have hactive₁ : w₁.model.activeSessionId = w.model.activeSessionId := congrArg Model.activeSessionId hmodel₁
        refine ⟨hsessions,
          ⟨published, hrenders₁.tellAgent (hmodel₁ ▸ hclosed.ready) (hactive'.trans hactive₁.symm) ?_⟩, ?_,
          fun _ => hshown.revision.ge⟩
        · rw [hactive₁, ← hactive']
          exact hk.wellFormed.active
        · intro howed
          have howed' : w.model.agentSnapshotResyncRevision ≠ 0 := hshown.resync ▸ howed
          show w₁.requests ≠ [] ∨ (w.model.toAgentModel.closeSession sessionId).activeSessionId ∈ w₁.timers
          rw [hrequests, hactive']
          exact (ha howed').imp_right fun htimer => htimers _ htimer hactive

/-! ## What the model of the prompts says of the sessions -/

theorem holding_react {kept : UInt8 → Kept} {m : AgentModel} (h : Holding kept m.toModel) (event : PromptEvent)
    (hopens : OpensInOrder ⟨m, [], kept⟩ event) :
    ∃ kept', Holding kept' (PromptWorld.react ⟨m, [], kept⟩ event).1.toModel := by
  have hmoves (moved : Moved) : MovesInOrder ⟨m, [], kept⟩ moved := by
    cases moved with
    | nothing | opened | typed => trivial
    | sent | cleared => rfl
    | restored => exact .inl rfl
  exact ⟨_, (reacted_react (w := ⟨m, [], kept⟩) h ⟨hmoves _, hopens⟩).holding⟩

theorem stepped_createAgentSession (hw : Waits w) (hr : Renders wyhash w published) (ha : Asked w)
    (provider : AgentProvider) (horder : ¬(w.model.availableAgentProviders ≠ [] ∧
      w.model.agentProviderAvailable provider = false) → OpensBlank w) :
    Stepped wyhash w (w.step wyhash (.chooseAgent provider)) := by
  obtain ⟨kept, hkept⟩ := hw.holding
  have hk := holding_react hkept (.chooseAgent provider) fun h => (horder h).1
  by_cases hgone : w.model.availableAgentProviders ≠ [] ∧ w.model.agentProviderAvailable provider = false
  · refine stepped_same hw hr ha hk ?_
    show SameSessions _ (w.model.createAgentSession provider).1
    unfold Model.createAgentSession
    rw [if_pos hgone]
    exact SameSessions.refl _
  · exact stepped_opened hw hr ha hk (opened_createAgentSession hkept.wellFormed.next provider) (horder hgone).2

theorem stepped_openLoginTerminal (hw : Waits w) (hr : Renders wyhash w published) (ha : Asked w)
    (provider : AgentProvider) (horder : provider.loginCommand ≠ none → OpensBlank w) :
    Stepped wyhash w (w.step wyhash (.openLoginTerminal provider)) := by
  obtain ⟨kept, hkept⟩ := hw.holding
  have hk := holding_react hkept (.openLoginTerminal provider) fun h => (horder h).1
  by_cases hnone : provider.loginCommand = none
  · refine stepped_same hw hr ha hk ?_
    show SameSessions _ (w.model.openProviderLoginTerminal provider).1
    unfold Model.openProviderLoginTerminal
    rw [if_pos hnone]
    exact SameSessions.refl _
  · exact stepped_opened hw hr ha hk (opened_openProviderLoginTerminal _ provider) (horder hnone).2

theorem stepped_chooseTerminal (hw : Waits w) (hr : Renders wyhash w published) (ha : Asked w)
    (horder : OpensBlank w) : Stepped wyhash w (w.step wyhash .chooseTerminal) := by
  obtain ⟨kept, hkept⟩ := hw.holding
  exact stepped_opened hw hr ha (holding_react hkept .chooseTerminal horder.1) (opened_chooseTerminal _) horder.2

/-- A session that has started is as its start leaves its connection. -/
theorem sameSessions_started (m : AgentModel) (sessionId : UInt8) (ready : Bool) :
    SameSessions (m.setAgentConnection sessionId (if ready then .ready else .failed))
      (m.applyAgentSessionStarted sessionId ready).1.toModel := by
  rw [← toModel_applyAgentStartResponse]
  unfold AgentModel.applyAgentSessionStarted
  dsimp only
  generalize m.applyAgentStartResponse sessionId ready = started
  split_ifs
  · exact SameSessions.refl _
  · split
    · exact SameSessions.refl _
    · split_ifs
      · exact sameSessions_requestAgentTurn { started with agentRetryAfterRestartSessionId := 0 }
      · exact SameSessions.refl _

theorem stepped_sessionStarted (hw : Waits w) (hr : Renders wyhash w published) (ha : Asked w) (ready : Bool)
    {session : Session} (hfind : w.model.findSession sessionId = some session) (hmode : session.mode = .agent)
    (hconnecting : session.agentConnection = .connecting) :
    Stepped wyhash w (w.applyAgentSessionStarted sessionId ready) := by
  obtain ⟨kept, hkept⟩ := hw.holding
  obtain ⟨hmem, rfl⟩ := (findKey_eq_some hkept.wellFormed.nodup).mp hfind
  have hk := holding_react hkept (.agentSessionStarted session.id ready) trivial
  have hstarted := sameSessions_started w.model.toAgentModel session.id ready
  have hids : (w.model.toAgentModel.applyAgentSessionStarted session.id ready).1.sessionIds = w.model.sessionIds :=
    hstarted.sessionIds.trans (sessionIds_setAgentConnection ..)
  have hactive : (w.model.toAgentModel.applyAgentSessionStarted session.id ready).1.activeSessionId =
      w.model.activeSessionId := hstarted.active
  -- the session itself was not ready before
  have hnot : ¬IsReady w.model.toModel session.id := by
    rw [hkept.wellFormed.isReady_iff hmem, hconnecting]
    exact fun h => nomatch h.2
  have hstays : StaysReady w.model.toModel
      (w.model.toAgentModel.applyAgentSessionStarted session.id ready).1.toModel := by
    refine ⟨fun other hother hin => ?_, hstarted.baseUrl⟩
    have hne : other ≠ session.id := fun heq => hnot (heq ▸ hother)
    exact hstarted.staysReady.ready other (hother.setAgentConnection hne _) hin
  have hwaits : Waits (w.tellAgent (w.model.toAgentModel.applyAgentSessionStarted session.id ready).1) :=
    hw.tellAgent hk hstays (fun _ _ hin => hids ▸ hin) fun hne => hids ▸ (hw.streamReady hne).1.mem
  unfold ProjectionWorld.applyAgentSessionStarted
  dsimp only
  split_ifs with hother hready
  · refine ⟨hwaits, ⟨published, hr.tellAgent hstays hactive (hids ▸ hkept.wellFormed.active)⟩, ?_, fun _ => le_rfl⟩
    intro howed
    show w.requests ≠ [] ∨ (w.model.toAgentModel.applyAgentSessionStarted session.id ready).1.activeSessionId ∈ w.timers
    rw [hactive]
    exact ha howed
  all_goals
    have hblank : w.model.agentDocumentRevision = 0 := by
      rw [hr.revision, (hr.quiet (not_not.mp hother ▸ hnot)).1, Document.revision_zero]
    have hclear := hwaits.clear
    have hrenders := renders_clear wyhash
      (w.tellAgent (w.model.toAgentModel.applyAgentSessionStarted session.id ready).1)
  · have hnow : IsReady (w.model.toAgentModel.applyAgentSessionStarted session.id ready).1.toModel session.id := by
      have hset := isReady_setAgentConnection hmem hmode
      rw [hready] at hstarted hids ⊢
      exact hstarted.staysReady.ready session.id hset (hids ▸ List.mem_map.mpr ⟨session, hmem, rfl⟩)
    have hsnapshot := ProjectionWorld.sameShown_requestAgentSnapshot
      (w.tellAgent (w.model.toAgentModel.applyAgentSessionStarted session.id ready).1).clearAgentProjection session.id
    have hstream := (ProjectionWorld.sameShown_requestAgentStream (ProjectionWorld.requestAgentSnapshot
      (w.tellAgent (w.model.toAgentModel.applyAgentSessionStarted session.id ready).1).clearAgentProjection session.id)
      session.id).1
    refine ⟨(hclear.requestAgentSnapshot hnow).requestAgentStream ?_,
      ⟨0, (hrenders.requestAgentSnapshot session.id).requestAgentStream session.id⟩, ?_, fun _ => ?_⟩
    · rw [hsnapshot.model]
      exact hnow
    · exact fun howed => absurd (hstream.resync.trans hsnapshot.resync) howed
    · exact hblank ▸ Nat.zero_le _
  · exact ⟨hclear, ⟨0, hrenders⟩, fun howed => absurd rfl howed, fun _ => hblank ▸ Nat.zero_le _⟩

/-! ## What is published -/

theorem Document.blocks_congr {d d' : Document D} {k : Nat} (h : d.projector k = d'.projector k) :
    d.blocks k = d'.blocks k := by
  unfold Document.blocks
  rw [h]

/-- What is known of a document stays as more of it is published. -/
theorem publish_documents (documents : UInt8 → Document D) (sessionId other : UInt8) (event : EventEnvelope) {k : Nat}
    (hk : k ≤ (documents other).events.length) :
    (Function.update documents sessionId ((documents sessionId).publish event) other).projector k =
        (documents other).projector k ∧
      k ≤ (Function.update documents sessionId ((documents sessionId).publish event) other).events.length := by
  rw [Function.update_apply]
  split
  · next heq =>
      subst heq
      exact Document.publish_projector _ event hk
  · exact ⟨rfl, hk⟩

theorem stepped_published (hw : Waits w) (hr : Renders wyhash w published) (ha : Asked w) (sessionId : UInt8)
    (event : EventEnvelope) : Stepped wyhash w (w.step wyhash (.published sessionId event)) := by
  obtain ⟨hprojector, hwithin⟩ := publish_documents w.documents sessionId w.model.activeSessionId event hr.within
  refine ⟨⟨hw.holding, hw.requested, fun request hrequest => ?_, hw.requestReady, hw.streamReady⟩,
    ⟨published, ⟨hwithin, hr.revision.trans ?_, hr.projection.trans ?_⟩, hr.later, hr.quiet, hr.url⟩, ha,
    fun _ => le_rfl⟩
  · exact (publish_documents w.documents sessionId request.sessionId event (hw.within request hrequest)).2
  · exact congrArg BlockProjector.revision hprojector.symm
  · exact congrArg (projectAgentBlocks wyhash) (Document.blocks_congr hprojector).symm

/-! ## What Rust answers -/

theorem Stepped.trans {w'' : ProjectionWorld D} (h : Stepped wyhash w w') (h' : Stepped wyhash w' w'')
    (hactive : w'.model.activeSessionId = w.model.activeSessionId) : Stepped wyhash w w'' :=
  ⟨h'.waits, h'.renders, h'.asked, fun hsame =>
    (h.revision hactive).trans (h'.revision (hsame.trans hactive.symm))⟩

/-- What is asked for is shown when it comes. -/
theorem stepped_requestAgentSnapshot (hw : Waits w) (hr : Renders wyhash w published)
    (hready : IsReady w.model.toModel sessionId) (hurl : w.model.writesUrl = true) :
    Stepped wyhash w (w.requestAgentSnapshot sessionId) :=
  ⟨hw.requestAgentSnapshot hready, ⟨published, hr.requestAgentSnapshot sessionId⟩,
    fun _ => .inl (hw.asked_requestAgentSnapshot hurl sessionId),
    fun _ => (w.sameShown_requestAgentSnapshot sessionId).revision.ge⟩

/-- A resync that a ready session owes, or no longer does. -/
theorem Renders.owe (h : Renders wyhash w published) (revision : Nat)
    (hready : IsReady w.model.toModel w.model.activeSessionId) (hurl : w.model.writesUrl = true) :
    Renders wyhash { w with model := { w.model with agentSnapshotResyncRevision := revision } } published :=
  ⟨⟨h.within, h.revision, h.projection⟩, h.later, fun hnot => absurd hready hnot, fun _ => hurl⟩

theorem Waits.owe (h : Waits w) (revision : Nat) :
    Waits { w with model := { w.model with agentSnapshotResyncRevision := revision } } :=
  ⟨h.holding, h.requested, h.within, h.requestReady, h.streamReady⟩

theorem stepped_requestAgentPatchResync (hw : Waits w) (hr : Renders wyhash w published)
    (hready : IsReady w.model.toModel w.model.activeSessionId) (hurl : w.model.writesUrl = true)
    (targetRevision : Nat) : Stepped wyhash w (w.requestAgentPatchResync w.model.activeSessionId targetRevision) := by
  obtain ⟨hwaits, hrenders, hasked, hrevision⟩ := stepped_requestAgentSnapshot
    (hw.owe (max w.model.agentSnapshotResyncRevision targetRevision)) (hr.owe _ hready hurl) hready hurl
  exact ⟨hwaits, hrenders, hasked, hrevision⟩

/-- A refresh that is scheduled is on its way. -/
theorem asked_scheduleAgentRefresh (w : ProjectionWorld D) : Asked (w.scheduleAgentRefresh w.model.activeSessionId) :=
  fun _ => .inr List.mem_cons_self

theorem stepped_scheduleAgentRefresh (hw : Waits w) (hr : Renders wyhash w published) :
    Stepped wyhash w (w.scheduleAgentRefresh w.model.activeSessionId) :=
  ⟨hw.scheduleAgentRefresh _, ⟨published, hr.scheduleAgentRefresh _⟩, asked_scheduleAgentRefresh w, fun _ => le_rfl⟩

/-- What a snapshot leaves to be asked for. -/
theorem stepped_refreshAgent (hw : Waits w) (hr : Renders wyhash w published)
    (hready : IsReady w.model.toModel w.model.activeSessionId) :
    Stepped wyhash w (w.refreshAgent w.model.activeSessionId) := by
  have hresynced : ∀ resynced : ProjectionWorld D, SameSessions w.model.toModel resynced.model.toModel →
      Stepped wyhash w resynced →
      Stepped wyhash w (if w.model.agentTurnStatus = .running ∨ w.model.agentTurnStatus = .cancelling ∨
          w.model.agentStreamSessionId = 0 then resynced.scheduleAgentRefresh w.model.activeSessionId
        else resynced) := by
    intro resynced hsame h
    split
    · obtain ⟨published', hrenders⟩ := h.renders
      have hscheduled := stepped_scheduleAgentRefresh h.waits hrenders
      rw [hsame.active] at hscheduled
      exact h.trans hscheduled hsame.active
    · exact h
  unfold ProjectionWorld.refreshAgent
  refine hresynced _ ?_ ?_
  · split
    · rw [(w.sameShown_requestAgentSnapshot _).model]
      exact SameSessions.refl _
    · exact SameSessions.refl _
  · split
    · next hold =>
        have howed : w.model.agentSnapshotResyncRevision ≠ 0 := by omega
        exact stepped_requestAgentSnapshot hw hr hready (hr.url howed)
    · refine ⟨hw.owe 0, ⟨published, ⟨⟨hr.within, hr.revision, hr.projection⟩, hr.later, ?_, ?_⟩⟩, ?_, fun _ => le_rfl⟩
      · exact fun hnot => absurd hready hnot
      · exact fun howed => absurd rfl howed
      · exact fun howed => absurd rfl howed

/-- The one request that is open is the one that is answered. -/
theorem Waits.answered (h : Waits w) {index : Nat} {request : SnapshotRequest}
    (hrequest : w.requests[index]? = some request) :
    w.requests.eraseIdx index = [] ∧ w.model.agentSnapshotInFlightSessionId = request.sessionId ∧
      Waits { w with
        model := { w.model with agentSnapshotInFlightSessionId := 0 }
        requests := [] } := by
  have hmem := List.mem_of_getElem? hrequest
  have hids := h.requested
  split at hids
  · rw [List.map_eq_nil_iff.mp hids] at hmem
    cases hmem
  · obtain ⟨only, honly, hid⟩ := List.map_eq_singleton_iff.mp hids
    rw [honly] at hmem hrequest
    obtain rfl := List.mem_singleton.mp hmem
    have hindex : index = 0 := by
      have hlt := (List.getElem?_eq_some_iff.mp hrequest).1
      exact Nat.lt_one_iff.mp hlt
    refine ⟨by rw [honly, hindex]; rfl, hid.symm, ⟨h.holding, rfl, ?_, ?_, h.streamReady⟩⟩
    · exact fun _ hin => nomatch hin
    · exact fun _ hin => nomatch hin

theorem Renders.answered (h : Renders wyhash w published) :
    Renders wyhash { w with
      model := { w.model with agentSnapshotInFlightSessionId := 0 }
      requests := [] } published :=
  h.sameShown ⟨rfl, rfl, rfl, rfl, rfl⟩ fun _ hin => nomatch hin

theorem Stepped.refl (hw : Waits w) (hr : Renders wyhash w published) (ha : Asked w) : Stepped wyhash w w :=
  ⟨hw, ⟨published, hr⟩, ha, fun _ => le_rfl⟩

/-- A snapshot of the active session that does not come leaves what is shown. -/
theorem stepped_unanswered (hw : Waits w) (hr : Renders wyhash w published) {index : Nat} {request : SnapshotRequest}
    (hrequest : w.requests[index]? = some request) (hk : ∃ kept, Holding kept agent.toModel)
    (hsame : SameSessions w.model.toModel agent.toModel)
    (htimer : w.model.agentSnapshotResyncRevision ≠ 0 → w.model.activeSessionId ∈ w.timers) :
    Stepped wyhash w (ProjectionWorld.tellAgent { w with
      model := { w.model with agentSnapshotInFlightSessionId := 0 }
      requests := [] } agent) := by
  obtain ⟨-, -, hwaits⟩ := hw.answered hrequest
  refine ⟨hwaits.tellSame hk hsame, ⟨published, hr.answered.tellSame hsame⟩, fun howed => .inr ?_, fun _ => le_rfl⟩
  show agent.activeSessionId ∈ w.timers
  rw [hsame.active]
  exact htimer howed

/-- A ready session shows the snapshot it is given. -/
theorem Renders.payload (h : Renders wyhash w published) (hnone : w.requests = [])
    (hready : IsReady w.model.toModel w.model.activeSessionId) {k : Nat}
    (hwithin : k ≤ (w.documents w.model.activeSessionId).events.length) :
    Renders wyhash (w.applyAgentSnapshotPayload wyhash ((w.documents w.model.activeSessionId).blocks k)
      ((w.documents w.model.activeSessionId).projector k).revision) k := by
  unfold ProjectionWorld.applyAgentSnapshotPayload
  refine ⟨⟨hwithin, rfl, rfl⟩, fun request hrequest => ?_, fun hnot => absurd hready hnot, h.url⟩
  dsimp only at hrequest
  rw [hnone] at hrequest
  cases hrequest

/-- A snapshot of the active session is at least as new as what is shown. -/
theorem stepped_projected (hw : Waits w) (hr : Renders wyhash w published) {index k : Nat} {request : SnapshotRequest}
    (hrequest : w.requests[index]? = some request) (hid : request.sessionId = w.model.activeSessionId)
    (hk : ∃ kept, Holding kept agent.toModel) (hsame : SameSessions w.model.toModel agent.toModel)
    (hsince : request.published ≤ k) (hwithin : k ≤ (w.documents w.model.activeSessionId).events.length) :
    Stepped wyhash w (((ProjectionWorld.applyAgentSnapshotPayload wyhash { w with
      model := { w.model with agentSnapshotInFlightSessionId := 0 }
      requests := [] } ((w.documents w.model.activeSessionId).blocks k)
      ((w.documents w.model.activeSessionId).projector k).revision).tellAgent agent).refreshAgent
        w.model.activeSessionId) := by
  obtain ⟨-, -, hwaits⟩ := hw.answered hrequest
  have hmem := List.mem_of_getElem? hrequest
  have hready : IsReady w.model.toModel w.model.activeSessionId :=
    hid ▸ hw.requestReady request hmem (hid ▸ hw.wellFormed.active)
  obtain ⟨payload, hpayload, hmodel, hrevision, hpayloadWaits, hpayloadRenders⟩ : ∃ payload : ProjectionWorld D,
      ProjectionWorld.applyAgentSnapshotPayload wyhash { w with
        model := { w.model with agentSnapshotInFlightSessionId := 0 }
        requests := [] } ((w.documents w.model.activeSessionId).blocks k)
        ((w.documents w.model.activeSessionId).projector k).revision = payload ∧
      payload.model.toModel = w.model.toModel ∧
      payload.model.agentDocumentRevision = ((w.documents w.model.activeSessionId).projector k).revision ∧
      Waits payload ∧ Renders wyhash payload k :=
    ⟨_, rfl, rfl, rfl,
      ⟨hwaits.holding, hwaits.requested, hwaits.within, hwaits.requestReady, hwaits.streamReady⟩,
      hr.answered.payload rfl hready hwithin⟩
  rw [hpayload]
  have hsame' : SameSessions payload.model.toModel agent.toModel := by
    rw [hmodel]
    exact hsame
  have hactive : (payload.tellAgent agent).model.activeSessionId = w.model.activeSessionId := hsame.active
  have hpayloadReady : IsReady payload.model.toModel payload.model.activeSessionId := by
    rw [hmodel]
    exact hready
  have hrefreshed := stepped_refreshAgent (hpayloadWaits.tellSame hk hsame') (hpayloadRenders.tellSame hsame')
    (isReady_tellSame hsame' hpayloadReady)
  rw [hactive] at hrefreshed
  refine ⟨hrefreshed.waits, hrefreshed.renders, hrefreshed.asked, fun hstays => ?_⟩
  calc w.model.agentDocumentRevision
      = ((w.documents w.model.activeSessionId).projector published).revision := hr.revision
    _ ≤ ((w.documents w.model.activeSessionId).projector k).revision :=
        Document.revision_le _ ((hr.later request hmem hid).trans hsince) hwithin
    _ = payload.model.agentDocumentRevision := hrevision.symm
    _ ≤ _ := hrefreshed.revision (hstays.trans hactive.symm)

theorem stepped_snapshotReceived (hw : Waits w) (hr : Renders wyhash w published) (ha : Asked w) (index : Nat)
    (answer : SnapshotAnswer) (horder : ProjectionInOrder wyhash w (.agentSnapshotReceived index answer)) :
    Stepped wyhash w (w.step wyhash (.agentSnapshotReceived index answer)) := by
  obtain ⟨kept, hkept⟩ := hw.holding
  unfold ProjectionWorld.step
  dsimp only
  cases hrequest : w.requests[index]? with
  | none => exact Stepped.refl hw hr ha
  | some request =>
      dsimp only
      obtain ⟨hnil, hinflight, hwaits⟩ := hw.answered hrequest
      cases hresponse : (w.documents request.sessionId).response request answer with
      | none => exact Stepped.refl hw hr ha
      | some response =>
          dsimp only
          unfold ProjectionWorld.applyAgentSnapshotResponse
          dsimp only
          rw [hnil, if_pos hinflight]
          split
          · exact ⟨hwaits.requestActive, ⟨published, hr.answered.requestActive hwaits⟩,
              hr.answered.asked_requestActive hwaits, fun _ => (sameShown_requestActive hwaits).revision.ge⟩
          · next hactive =>
              have hid := not_not.mp hactive
              have hk (result : AgentModel.SnapshotResult) :=
                holding_react hkept (.agentSnapshotReceived request.sessionId result) trivial
              have hsame := sameSessions_snapshotResponse w.model.toAgentModel request.sessionId
              cases answer with
              | failed =>
                  obtain rfl := Option.some.inj hresponse
                  exact stepped_unanswered hw hr hrequest (hk .failed) (hsame .failed) (horder request hrequest hid)
              | ignored =>
                  obtain rfl := Option.some.inj hresponse
                  exact stepped_unanswered hw hr hrequest (hk .ignored) (hsame .ignored) (horder request hrequest hid)
              | document status k =>
                  unfold Document.response at hresponse
                  dsimp only at hresponse
                  split at hresponse
                  · next hwithin =>
                      obtain rfl := Option.some.inj hresponse
                      rw [hid] at hwithin ⊢
                      exact stepped_projected hw hr hrequest hid (hid ▸ hk (.projected status))
                        (hid ▸ hsame (.projected status)) hwithin.1 hwithin.2
                  · cases hresponse

/-! ## What Rust streams -/

theorem stepped_cancelAgentStream (hw : Waits w) (hr : Renders wyhash w published) (ha : Asked w) (sessionId : UInt8) :
    Stepped wyhash w (w.cancelAgentStream sessionId) := by
  obtain ⟨hshown, hrequests, htimers⟩ := w.sameShown_cancelAgentStream sessionId
  refine ⟨hw.cancelAgentStream sessionId, ⟨published, hr.cancelAgentStream sessionId⟩, fun howed => ?_,
    fun _ => hshown.revision.ge⟩
  rw [hrequests, htimers, hshown.model]
  exact ha (hshown.resync ▸ howed)

/-- A refresh is scheduled of a session that stays active. -/
theorem Stepped.scheduleAgentRefresh (h : Stepped wyhash w w')
    (hactive : w'.model.activeSessionId = w.model.activeSessionId) :
    Stepped wyhash w (w'.scheduleAgentRefresh w.model.activeSessionId) := by
  obtain ⟨published, hrenders⟩ := h.renders
  have hscheduled := stepped_scheduleAgentRefresh h.waits hrenders
  rw [hactive] at hscheduled
  exact h.trans hscheduled hactive

/-- A patch that is taken is for what is shown, while nothing is asked for. -/
theorem takesPatch_spec {m : ProjectionModel} {patch : BlockPatch} (h : m.takesPatch wyhash patch = true) :
    m.agentSnapshotInFlightSessionId = 0 ∧ patch.baseRevision = m.agentDocumentRevision ∧
      patch.operations.all (ProjectionModel.takesOperation wyhash m.projection.blocks) = true := by
  unfold ProjectionModel.takesPatch at h
  simp only [Bool.and_eq_true, decide_eq_true_eq] at h
  exact ⟨h.1.1.1.2, h.1.1.2, h.2⟩

/-- A patch of the active session is taken, is old, or is resynced. -/
theorem stepped_applyAgentPatch (hw : Waits w) (hr : Renders wyhash w published) (ha : Asked w)
    (hready : IsReady w.model.toModel w.model.activeSessionId) (hurl : w.model.writesUrl = true) (first count : Nat)
    (patch : BlockPatch)
    (hmerged : mergePatches ((w.documents w.model.activeSessionId).segment first count) = some patch)
    (horder : w.model.takesPatch wyhash patch = true →
      AppendsInOrder wyhash (w.documents w.model.activeSessionId) first count) :
    Stepped wyhash w (w.applyAgentPatch wyhash w.model.activeSessionId patch) := by
  unfold ProjectionWorld.applyAgentPatch
  split_ifs with hold htakes
  · exact ⟨⟨hw.holding, hw.requested, hw.within, hw.requestReady, hw.streamReady⟩,
      ⟨published, ⟨hr.within, hr.revision, hr.projection⟩, hr.later, hr.quiet, hr.url⟩, ha, fun _ => le_rfl⟩
  · obtain ⟨n, hwithin, hcount, -, hbase, htarget, hoperations⟩ := mergePatches_segment hmerged
    obtain ⟨hidle, hbase', htaken⟩ := takesPatch_spec htakes
    -- it is for what is shown, so it starts where the client is
    obtain rfl : first = published := Document.revision_injective _ (by omega) hr.within
      (hbase.symm.trans (hbase'.trans hr.revision))
    have hshows : AppendsInOrder wyhash (w.documents w.model.activeSessionId) first (n + 1) := fun k patch hle hlt =>
      horder htakes k patch hle (by omega)
    rw [hoperations, hr.projection] at htaken
    have hviews := (projectAgentBlocks_segment (n := n + 1) hwithin hshows (List.all_eq_true.mp htaken)).1
    have hnone : w.requests = [] := hw.requests_eq_nil.mpr hidle
    refine ⟨⟨hw.holding, hw.requested, hw.within, hw.requestReady, hw.streamReady⟩,
      ⟨first + (n + 1), ⟨hwithin, htarget, ?_⟩, ?_, fun hnot => absurd hready hnot, hr.url⟩, ha,
      fun _ => (Nat.lt_of_not_le hold).le⟩
    · dsimp only
      rw [hviews, hoperations, hr.projection]
    · intro request hrequest
      dsimp only at hrequest
      rw [hnone] at hrequest
      cases hrequest
  · exact stepped_requestAgentPatchResync hw hr hready hurl _

theorem stepped_streamLine (hw : Waits w) (hr : Renders wyhash w published) (ha : Asked w) (sessionId : UInt8)
    (frame : StreamFrame) (horder : ProjectionInOrder wyhash w (.agentStreamLine sessionId frame)) :
    Stepped wyhash w (w.step wyhash (.agentStreamLine sessionId frame)) := by
  obtain ⟨kept, hkept⟩ := hw.holding
  unfold ProjectionWorld.step
  dsimp only
  cases hline : (w.documents sessionId).line frame with
  | none => exact Stepped.refl hw hr ha
  | some line =>
      dsimp only
      unfold ProjectionWorld.applyAgentStreamLine
      split_ifs with hother
      · exact Stepped.refl hw hr ha
      · obtain ⟨hid, hopen⟩ := not_or.mp hother
        obtain rfl := not_not.mp hid
        have hne : w.model.agentStreamSessionId ≠ 0 := fun h0 =>
          hkept.wellFormed.nonzero (h0 ▸ (not_not.mp hopen).symm ▸ hkept.wellFormed.active)
        obtain ⟨hready, hurl⟩ := hw.streamReady hne
        rw [not_not.mp hopen] at hready
        -- what a frame tells of the turn leaves the sessions
        have htold {agent : AgentModel} (hk : ∃ kept, Holding kept agent.toModel)
            (hsame : SameSessions w.model.toModel agent.toModel) :
            Stepped wyhash w (w.tellAgent agent) ∧ ∀ targetRevision, Stepped wyhash w
              ((w.tellAgent agent).requestAgentPatchResync w.model.activeSessionId targetRevision) := by
          have htell := stepped_same hw hr ha hk hsame
          refine ⟨htell, fun targetRevision => ?_⟩
          have hresync := stepped_requestAgentPatchResync htell.waits (hr.tellSame hsame)
            (isReady_tellSame hsame hready) (hsame.staysReady.writesUrl.trans hurl) targetRevision
          have hactive : (w.tellAgent agent).model.activeSessionId = w.model.activeSessionId := hsame.active
          rw [hactive] at hresync
          exact htell.trans hresync hactive
        have hstatus (status : Option AgentTurnStatus) : SameSessions w.model.toModel
            (w.model.applyAgentFrameStatus w.model.activeSessionId status).toModel := by
          rw [toModel_frameStatus]
          exact SameSessions.refl _
        have hkStatus (status : Option AgentTurnStatus) : ∃ kept',
            Holding kept' (w.model.applyAgentFrameStatus w.model.activeSessionId status).toModel :=
          holding_react hkept (.agentFrameStatus w.model.activeSessionId status) trivial
        cases frame with
        | cut =>
            obtain rfl := Option.some.inj hline
            exact (stepped_cancelAgentStream hw hr ha _).scheduleAgentRefresh
              (congrArg Model.activeSessionId (w.sameShown_cancelAgentStream _).1.model)
        | unreadable =>
            obtain rfl := Option.some.inj hline
            exact stepped_requestAgentSnapshot hw hr hready hurl
        | state status documentRevision =>
            obtain rfl := Option.some.inj hline
            obtain ⟨htell, hresync⟩ := htold
              (holding_react hkept (.agentStateFrame w.model.activeSessionId status) trivial)
              (sameSessions_stateFrame w.model.toAgentModel w.model.activeSessionId status)
            cases documentRevision with
            | none => exact htell
            | some revision =>
                dsimp only
                split
                · exact hresync revision
                · exact htell
        | resync status targetRevision =>
            obtain rfl := Option.some.inj hline
            exact (htold (hkStatus status) (hstatus status)).2 _
        | patch status first count =>
            obtain ⟨patch, hmerged, rfl⟩ := Option.map_eq_some_iff.mp hline
            have htell := (htold (hkStatus status) (hstatus status)).1
            have hactive : (w.tellAgent (w.model.applyAgentFrameStatus w.model.activeSessionId
                status)).model.activeSessionId = w.model.activeSessionId := (hstatus status).active
            have hpatched := stepped_applyAgentPatch htell.waits
              (hr.tellSame (hstatus status)) htell.asked (isReady_tellSame (hstatus status) hready)
              ((hstatus status).staysReady.writesUrl.trans hurl) first count patch
            rw [hactive] at hpatched
            exact htell.trans (hpatched hmerged (horder patch hmerged)) hactive

theorem stepped_streamClosed (hw : Waits w) (hr : Renders wyhash w published) (ha : Asked w) (sessionId : UInt8)
    (cancelled : Bool) : Stepped wyhash w (w.applyAgentStreamClosed sessionId cancelled) := by
  have hclosed := stepped_cancelAgentStream hw hr ha sessionId
  have hmodel := (w.sameShown_cancelAgentStream sessionId).1.model
  unfold ProjectionWorld.applyAgentStreamClosed
  dsimp only
  split_ifs with hquiet
  · exact hclosed
  · simp only [not_or, not_not] at hquiet
    obtain ⟨rfl, hmode, hconnection, -⟩ := hquiet
    have hready : IsReady (w.cancelAgentStream w.model.activeSessionId).model.toModel w.model.activeSessionId := by
      rw [hmodel]
      exact hw.wellFormed.isReady_active.mpr ⟨hmode, hconnection⟩
    have hshown := (w.sameShown_cancelAgentStream w.model.activeSessionId).1.trans
      (ProjectionWorld.sameShown_requestAgentSnapshot _ w.model.activeSessionId)
    refine ⟨(hclosed.waits.requestAgentSnapshot hready).scheduleAgentRefresh _,
      ⟨published, ((hr.cancelAgentStream _).requestAgentSnapshot _).scheduleAgentRefresh _⟩, fun _ => .inr ?_,
      fun _ => hshown.revision.ge⟩
    show (ProjectionWorld.requestAgentSnapshot _ _).model.toModel.activeSessionId ∈ w.model.activeSessionId :: _
    rw [hshown.model]
    exact List.mem_cons_self

theorem stepped_poll (hw : Waits w) (hr : Renders wyhash w published) (ha : Asked w) (sessionId : UInt8) :
    Stepped wyhash w (w.step wyhash (.agentPoll sessionId)) := by
  unfold ProjectionWorld.step
  dsimp only
  split
  · have hwaits : Waits { w with timers := w.timers.filter fun timer => timer ≠ sessionId } :=
      ⟨hw.holding, hw.requested, hw.within, hw.requestReady, hw.streamReady⟩
    have hrenders : Renders wyhash { w with timers := w.timers.filter fun timer => timer ≠ sessionId } published :=
      hr.sameShown ⟨rfl, rfl, rfl, rfl, rfl⟩ hr.later
    exact ⟨hwaits.requestActive, ⟨published, hrenders.requestActive hwaits⟩, hrenders.asked_requestActive hwaits,
      fun _ => (sameShown_requestActive hwaits).revision.ge⟩
  · exact Stepped.refl hw hr ha

/-- **One event.** What is waited for, what is shown and what is asked for are kept. -/
theorem step_follows (hw : Waits w) (hr : Renders wyhash w published) (ha : Asked w) (event : ProjectionEvent)
    (horder : ProjectionInOrder wyhash w event) : Stepped wyhash w (w.step wyhash event) := by
  obtain ⟨kept, hkept⟩ := hw.holding
  cases event with
  | chooseTerminal => exact stepped_chooseTerminal hw hr ha horder
  | chooseAgent provider => exact stepped_createAgentSession hw hr ha provider horder
  | openLoginTerminal provider => exact stepped_openLoginTerminal hw hr ha provider horder
  | selectSession sessionId => exact stepped_selectSession hw hr ha sessionId
  | closeSession sessionId =>
      unfold ProjectionWorld.step
      dsimp only
      split
      · exact Stepped.refl hw hr ha
      · next hlength => exact stepped_closeSession hw hr ha sessionId hlength
  | agentSessionStarted sessionId ready =>
      unfold ProjectionWorld.step
      dsimp only
      split
      · next hconnecting =>
          obtain ⟨session, hfind, hsession⟩ := (Option.any_eq_true _ _).mp hconnecting
          obtain ⟨hmode, hconnection⟩ := Bool.and_eq_true_iff.mp hsession
          exact stepped_sessionStarted hw hr ha ready hfind (of_decide_eq_true hmode) (of_decide_eq_true hconnection)
      · exact Stepped.refl hw hr ha
  | published sessionId event => exact stepped_published hw hr ha sessionId event
  | agentSnapshotReceived index answer => exact stepped_snapshotReceived hw hr ha index answer horder
  | agentStreamLine sessionId frame => exact stepped_streamLine hw hr ha sessionId frame horder
  | agentStreamClosed sessionId cancelled => exact stepped_streamClosed hw hr ha sessionId cancelled
  | agentPoll sessionId => exact stepped_poll hw hr ha sessionId
  | agentAccepted status =>
      have htold : Stepped wyhash w (w.tellAgent { w.model.toAgentModel with agentTurnStatus := status }) :=
        stepped_same hw hr ha ⟨kept, hkept⟩ (SameSessions.refl _)
      exact htold.scheduleAgentRefresh rfl

/-! ## What is safe -/

/-- The snapshot of a session that was left has the client ask for the one that is owed. -/
theorem outstanding_of_requests (hw : Waits w) (hr : Renders wyhash w published) (hrequests : w.requests ≠ [])
    (howed : w.model.agentSnapshotResyncRevision ≠ 0) : Outstanding wyhash w := by
  obtain ⟨request, rest, hcons⟩ := List.exists_cons_of_ne_nil hrequests
  have hrequest : w.requests[0]? = some request := by rw [hcons]; rfl
  refine .inr ⟨0, request, hrequest, ?_⟩
  by_cases hid : request.sessionId = w.model.activeSessionId
  · exact .inl hid
  · refine .inr fun answer hanswer => ?_
    obtain ⟨response, hresponse⟩ := Option.ne_none_iff_exists'.mp hanswer
    obtain ⟨hnil, hinflight, hwaits⟩ := hw.answered hrequest
    unfold ProjectionWorld.step
    dsimp only
    rw [hrequest]
    dsimp only
    rw [hresponse]
    dsimp only
    unfold ProjectionWorld.applyAgentSnapshotResponse
    dsimp only
    rw [hnil, if_pos hinflight, if_pos hid]
    have hready : IsReady w.model.toModel w.model.activeSessionId := by
      by_contra hnot
      exact howed (hr.quiet hnot).2
    obtain ⟨heq, -⟩ | ⟨-, hnot⟩ := hwaits.requestActive_cases
    · rw [heq, (ProjectionWorld.sameShown_requestAgentStream _ _).2]
      have hurl : ¬w.model.writesUrl = false := by
        rw [hr.url howed]
        decide
      unfold ProjectionWorld.requestAgentSnapshot
      rw [if_neg (not_or.mpr ⟨fun h0 => h0 rfl, hurl⟩)]
      exact ⟨_, List.mem_singleton_self _, rfl⟩
    · exact absurd hready hnot

theorem Stepped.safe (h : Stepped wyhash w w') : ProjectionSafe wyhash w' := by
  obtain ⟨published, hrenders⟩ := h.renders
  refine ⟨⟨published, hrenders.toProjects⟩, fun howed => ?_⟩
  obtain hrequests | htimer := h.asked howed
  · exact outstanding_of_requests h.waits hrenders hrequests howed
  · exact .inl htimer

/-- What a patch changes, it changes of the active session, at the revision that is shown. -/
theorem patched_step (w : ProjectionWorld D) {status : Option AgentTurnStatus} {first count : Nat} {patch : BlockPatch}
    (hmerged : mergePatches (((w.documents sessionId).patches.drop first).take count) = some patch)
    (hchanges : (w.step wyhash (.agentStreamLine sessionId (.patch status first count))).model.agentDocumentRevision ≠
        w.model.agentDocumentRevision ∨
      (w.step wyhash (.agentStreamLine sessionId (.patch status first count))).model.projection ≠ w.model.projection) :
    sessionId = w.model.activeSessionId ∧ patch.baseRevision = w.model.agentDocumentRevision := by
  unfold ProjectionWorld.step Document.line at hchanges
  dsimp only at hchanges
  rw [hmerged, Option.map_some] at hchanges
  dsimp only at hchanges
  unfold ProjectionWorld.applyAgentStreamLine at hchanges
  dsimp only at hchanges
  split at hchanges
  · exact absurd hchanges (not_or.mpr ⟨fun h => h rfl, fun h => h rfl⟩)
  · next hother =>
      refine ⟨not_not.mp (not_or.mp hother).1, ?_⟩
      unfold ProjectionWorld.applyAgentPatch at hchanges
      split_ifs at hchanges with hold htakes
      · exact absurd hchanges (not_or.mpr ⟨fun h => h rfl, fun h => h rfl⟩)
      · exact (takesPatch_spec htakes).2.1
      · have hshown := ProjectionWorld.sameShown_requestAgentSnapshot (D := D) { w with
          model := { w.model with
            toAgentModel := w.model.applyAgentFrameStatus sessionId status
            agentSnapshotResyncRevision := max w.model.agentSnapshotResyncRevision patch.targetRevision } } sessionId
        exact absurd hchanges (not_or.mpr ⟨fun h => h hshown.revision, fun h => h hshown.projection⟩)

theorem Stepped.proceeds {event : ProjectionEvent} (h : Stepped wyhash w (w.step wyhash event)) :
    Proceeds wyhash w event := by
  refine ⟨h.revision, ?_⟩
  rintro sessionId status first count patch rfl hmerged hchanges
  exact patched_step w hmerged hchanges

end Worlds

/-! ## Runs -/

section Runs

variable {D : Digests} {wyhash : String → Nat}

/-- The client that has started shows nothing, and waits for nothing. -/
theorem stepped_start (launch : Launch) (store : Store) (hstore : Sound store.snapshot)
    (documents : UInt8 → Document D) : Stepped wyhash (ProjectionWorld.start launch store documents)
      (ProjectionWorld.start launch store documents) := by
  have hwaits : Waits (ProjectionWorld.start launch store documents) :=
    ⟨⟨_, holding_boot hstore⟩, rfl, fun _ hin => (nomatch hin), fun _ hin => (nomatch hin), fun hne => absurd rfl hne⟩
  exact Stepped.refl hwaits (renders_clear wyhash (ProjectionWorld.start launch store documents))
    fun howed => absurd rfl howed

/-- What holds before the events of a run holds after them, and each has proceeded. -/
theorem follows_foldl {w w₀ : ProjectionWorld D} (h : Stepped wyhash w₀ w) {events : List ProjectionEvent}
    (horder : AllProjectionsInOrder wyhash w events) :
    (∃ w₁, Stepped wyhash w₁ (events.foldl (ProjectionWorld.step wyhash) w)) ∧
      ∀ before event after, events = before ++ event :: after →
        Proceeds wyhash (before.foldl (ProjectionWorld.step wyhash) w) event := by
  induction events generalizing w w₀ with
  | nil => exact ⟨⟨w₀, h⟩, fun before event after hevents => absurd hevents.symm (by simp)⟩
  | cons first events ih =>
      obtain ⟨published, hrenders⟩ := h.renders
      have hstep := step_follows h.waits hrenders h.asked first horder.1
      obtain ⟨hsafe, hproceeds⟩ := ih hstep horder.2
      refine ⟨hsafe, fun before event after hevents => ?_⟩
      cases before with
      | nil =>
          obtain ⟨rfl, -⟩ := List.cons.inj hevents
          exact hstep.proceeds
      | cons head before =>
          obtain ⟨rfl, hrest⟩ := List.cons.inj hevents
          exact hproceeds before event after hrest

/-- **Main result.** In every run within the condition the client shows what was published of its active session, a
refresh is on its way wherever one is owed, and no event takes what is shown back or patches something else. -/
theorem projection_safe (launch : Launch) (store : Store) (hstore : Sound store.snapshot)
    (documents : UInt8 → Document D) (events : List ProjectionEvent)
    (horder : AllProjectionsInOrder wyhash (ProjectionWorld.start launch store documents) events) :
    ProjectionSafe wyhash (ProjectionWorld.run wyhash launch store documents events) ∧
      ∀ before event after, events = before ++ event :: after →
        Proceeds wyhash (ProjectionWorld.run wyhash launch store documents before) event := by
  obtain ⟨⟨_, hsafe⟩, hproceeds⟩ := follows_foldl (stepped_start launch store hstore documents) horder
  exact ⟨hsafe.safe, hproceeds⟩

end Runs

/-! ## A message in two parts -/

def twoPartDocument : Document sampleDigests where
  taskId := sampleTask
  events := [sampleEvent 1 none (.taskCreated "build terminal"),
    sampleEvent 2 none (.messageAppended ⟨7⟩ .agent (some "agent-1") "hello "),
    sampleEvent 3 none (.messageAppended ⟨7⟩ .agent (some "agent-1") "world")]
  accepted := rfl

/-- The second part is shown behind the first. -/
theorem appendsInOrder_twoPartDocument : AppendsInOrder (fun _ => 5) twoPartDocument 2 1 := by
  intro k patch hle hlt hpatch blockId previous revision text hmem
  obtain rfl : k = 2 := by omega
  have hlast : ∃ patch, twoPartDocument.patches[2]? = some patch ∧
      patch.operations = [.appendContent ⟨7⟩ 1 2 "world"] := ⟨_, rfl, rfl⟩
  obtain ⟨last, hlast, hoperations⟩ := hlast
  obtain rfl := Option.some.inj (hpatch.symm.trans hlast)
  rw [hoperations] at hmem
  obtain ⟨rfl, rfl, rfl, rfl⟩ := BlockOperation.appendContent.inj (List.mem_singleton.mp hmem)
  intro group hgroup
  have hshown : ∃ block index, ((shownGroups (twoPartDocument.blocks 2)).find? fun group =>
      isAppendTarget (fun _ => 5) ⟨7⟩ (projectAgentGroup (fun _ => 5) (twoPartDocument.blocks 2) group)) =
        some [(block, index)] ∧ block.blockId = ⟨7⟩ ∧
          block.payload = .message .agent "hello " (some "agent-1") := ⟨_, _, rfl, rfl, rfl⟩
  obtain ⟨block, index, hfind, hid, hpayload⟩ := hshown
  obtain rfl := Option.some.inj (hgroup.symm.trans hfind)
  exact ⟨block, index, _, _, _, rfl, hid, hpayload, by decide, Or.inl (by decide)⟩

/-- A session is started and shows the first part of the message, then the second. -/
def twoPartRun : List ProjectionEvent :=
  [.chooseAgent .codex, .agentSessionStarted 2 true, .agentSnapshotReceived 0 (.document .running 2),
    .agentStreamLine 2 (.patch none 2 1), .agentStreamLine 2 (.resync none (some 9)), .agentPoll 2]

set_option maxRecDepth 10000 in
theorem allProjectionsInOrder_twoPartRun : AllProjectionsInOrder (fun _ => 5)
    (ProjectionWorld.start Launch.codex (Store.new Launch.codex) fun _ => twoPartDocument) twoPartRun := by
  refine ⟨fun _ => ⟨by decide +kernel, fun _ => ⟨rfl, rfl, rfl, fun _ h => nomatch h⟩⟩, trivial, trivial, ?_, trivial,
    trivial, trivial⟩
  intro patch _ _
  exact appendsInOrder_twoPartDocument

theorem projection_safe_twoPartRun :
    ProjectionSafe (fun _ => 5) (ProjectionWorld.run (fun _ => 5) Launch.codex (Store.new Launch.codex)
        (fun _ => twoPartDocument) twoPartRun) ∧
      ∀ before event after, twoPartRun = before ++ event :: after →
        Proceeds (fun _ => 5) (ProjectionWorld.run (fun _ => 5) Launch.codex (Store.new Launch.codex)
          (fun _ => twoPartDocument) before) event :=
  projection_safe Launch.codex (Store.new Launch.codex) sound_default (fun _ => twoPartDocument) twoPartRun
    allProjectionsInOrder_twoPartRun

/-- A resync is asked for, and the snapshot that comes has failed. -/
def unansweredResync : List ProjectionEvent :=
  [.chooseAgent .codex, .agentSessionStarted 2 true, .agentSnapshotReceived 0 (.document .completed 0),
    .agentStreamLine 2 (.resync none (some 1)), .agentSnapshotReceived 0 .failed]

/-- The client waits for nothing, and owes itself a resync. -/
theorem resync_forgotten : ¬ ∀ (wyhash : String → Nat) launch store, Sound store.snapshot →
    ∀ (documents : UInt8 → Document sampleDigests) events,
      ProjectionSafe wyhash (ProjectionWorld.run wyhash launch store documents events) ∧
        ∀ before event after, events = before ++ event :: after →
          Proceeds wyhash (ProjectionWorld.run wyhash launch store documents before) event := by
  intro h
  have hsafe := (h (fun _ => 5) Launch.codex (Store.new Launch.codex) sound_default (fun _ => twoPartDocument)
    unansweredResync).1
  have htimers : (ProjectionWorld.run (fun _ => 5) Launch.codex (Store.new Launch.codex) (fun _ => twoPartDocument)
      unansweredResync).timers = [] := by decide +kernel
  have hrequests : (ProjectionWorld.run (fun _ => 5) Launch.codex (Store.new Launch.codex) (fun _ => twoPartDocument)
      unansweredResync).requests = [] := by decide +kernel
  obtain htimer | ⟨index, request, hrequest, -⟩ := hsafe.owed (by decide +kernel)
  · rw [htimers] at htimer
    cases htimer
  · rw [hrequests] at hrequest
    cases hrequest

end HyperTerm.Desktop
