import HyperTerm.Desktop.WorkspaceStore

/-!
# The desktop workspace

The client and Rust over any run: tabs come and go, snapshots of them are on the way, answers are lost, the client or
the whole desktop is started again.

* `World`, `step` : the client, what Rust keeps, and the requests between them;
* `Safe` : what holds of the sessions, of the requests on the way and of what is restored;
* `InOrder` : the condition on an event;
* `Followed`, `Inv` : the invariant, revision by revision;
* `workspace_safe` : every run within the condition is safe.
-/

namespace HyperTerm.Desktop
open HyperTerm.Lib

/-! ## The world -/

/-- What the desktop is started with. -/
structure Launch where
  /-- The terminal URL is trusted. -/
  trusted : Bool
  /-- There is a trusted URL of a bug capsule. -/
  capsule : Bool
  /-- Empty where there is none that is trusted. -/
  agentBaseUrl : String
  availableAgentProviders : List AgentProvider
  authenticatedAgentProviders : List AgentProvider
  sessionAuthAgentProviders : List AgentProvider
  /-- Rust keeps the workspace in a file. -/
  durable : Bool

def initializeModelWithDesktopServices (launch : Launch) : Model :=
  let model : Model :=
    if launch.agentBaseUrl = "" then {}
    else
      { agentBaseUrl := launch.agentBaseUrl
        availableAgentProviders := launch.availableAgentProviders
        authenticatedAgentProviders := launch.authenticatedAgentProviders
        sessionAuthAgentProviders := launch.sessionAuthAgentProviders
        selectedAgentProvider :=
          (firstAvailableAgentProvider (launch.authenticatedAgentProviders ++ launch.sessionAuthAgentProviders)).getD
            ((firstAvailableAgentProvider launch.availableAgentProviders).getD .codex) }
  if launch.capsule then { model with sessionSlots := [{ id := 1, mode := .capsule }] }
  else { model with desktopWorkspaceEnabled := launch.trusted }

/-- `main`: the client is given the snapshot that Rust has. -/
def boot (launch : Launch) (store : Store) : Model :=
  let model := initializeModelWithDesktopServices launch
  (model.restoreDesktopWorkspace store.snapshot.json.utf8ByteSize (some store.snapshot)).getD model

/-- A snapshot that the client has sent, with the status of Rust's response once there is one. -/
structure Request where
  snapshot : DesktopWorkspaceWire
  status : Option Nat
  deriving DecidableEq

structure World where
  model : Model
  store : Store
  /-- The client has neither an answer nor an error yet. -/
  awaiting : List Request
  /-- The client has given up on them, and Rust has not seen them. -/
  late : List DesktopWorkspaceWire
  /-- An earlier client has sent them, and Rust has not seen them. -/
  orphaned : List DesktopWorkspaceWire
  /-- What the user has typed and sent in each session. -/
  kept : UInt8 → Kept

inductive Event where
  | chooseTerminal
  | chooseAgent (provider : AgentProvider)
  | openLoginTerminal (provider : AgentProvider)
  | selectSession (sessionId : UInt8)
  | closeSession (sessionId : UInt8)
  | closeActiveSession
  | agentComposerChanged (text : String)
  | pendingPromptChanged (sessionId : UInt8) (text : String)
  | agentConnectionChanged (sessionId : UInt8) (connection : AgentConnection)
  | agentProvidersRefreshed (available authenticated sessionAuth : List AgentProvider)
  /-- Rust comes to a request. -/
  | handle (index : Nat) (replaced : Replaced)
  | handleLate (index : Nat) (replaced : Replaced)
  | handleOrphaned (index : Nat) (replaced : Replaced)
  /-- The client has the answer to a request, or an error in its place. -/
  | respond (index : Nat) (arrives : Bool)
  | restartClient
  | restartDesktop

def sent (snapshot : Model.Sent) : List Request := snapshot.toList.map fun snapshot => ⟨snapshot, none⟩

/-- The client has come to `out`, and sent what it sends. -/
def World.tell (w : World) (out : Model × Model.Sent) (kept : UInt8 → Kept) : World :=
  { w with model := out.1, awaiting := w.awaiting ++ sent out.2, kept }

def World.opened (w : World) (out : Model × Model.Sent) : World :=
  w.tell out (Function.update w.kept w.model.nextSessionId Kept.blank)

def World.handled (w : World) (index : Nat) (replaced : Replaced) : World :=
  match w.awaiting[index]? with
  | some ⟨snapshot, none⟩ =>
      let answered := w.store.updateDesktopWorkspace snapshot replaced
      { w with store := answered.1, awaiting := w.awaiting.set index ⟨snapshot, some answered.2⟩ }
  | _ => w

def World.responded (w : World) (index : Nat) (arrives : Bool) : World :=
  match w.awaiting[index]? with
  | none => w
  | some request =>
      World.tell { w with
        awaiting := w.awaiting.eraseIdx index
        late := if request.status = none then w.late ++ [request.snapshot] else w.late }
        (w.model.applyDesktopWorkspacePersisted (arrives && request.status = some 204)) w.kept

/-- The requests that Rust has yet to see. -/
def World.unseen (w : World) : List DesktopWorkspaceWire :=
  w.orphaned ++ w.late ++ (w.awaiting.filter fun request => request.status = none).map Request.snapshot

def step (launch : Launch) (w : World) : Event → World
  | .chooseTerminal => w.opened w.model.chooseTerminal
  | .chooseAgent provider => w.opened (w.model.createAgentSession provider)
  | .openLoginTerminal provider => w.opened (w.model.openProviderLoginTerminal provider)
  | .selectSession sessionId => w.tell (w.model.chooseSession sessionId) w.kept
  | .closeSession sessionId => w.tell (w.model.closeSession sessionId) w.kept
  | .closeActiveSession => w.tell (w.model.closeSession w.model.activeSessionId) w.kept
  | .agentComposerChanged text =>
      w.tell (w.model.agentComposerChanged text, none)
        (Function.update w.kept w.model.activeSessionId { w.kept w.model.activeSessionId with draft := text })
  | .pendingPromptChanged sessionId text =>
      w.tell (w.model.setPendingAgentPrompt sessionId text, none)
        (Function.update w.kept sessionId { w.kept sessionId with pending := text })
  | .agentConnectionChanged sessionId connection => w.tell (w.model.setAgentConnection sessionId connection, none) w.kept
  | .agentProvidersRefreshed available authenticated sessionAuth =>
      w.tell (w.model.applyAgentProviderRefresh available authenticated sessionAuth, none) w.kept
  | .handle index replaced => w.handled index replaced
  | .handleLate index replaced =>
      match w.late[index]? with
      | none => w
      | some snapshot =>
          { w with store := (w.store.updateDesktopWorkspace snapshot replaced).1, late := w.late.eraseIdx index }
  | .handleOrphaned index replaced =>
      match w.orphaned[index]? with
      | none => w
      | some snapshot =>
          { w with store := (w.store.updateDesktopWorkspace snapshot replaced).1, orphaned := w.orphaned.eraseIdx index }
  | .respond index arrives => w.responded index arrives
  | .restartClient =>
      { model := boot launch w.store, store := w.store, awaiting := [], late := [], orphaned := w.unseen,
        kept := fun _ => Kept.blank }
  | .restartDesktop =>
      { model := boot launch w.store.reopen, store := w.store.reopen, awaiting := [], late := [], orphaned := [],
        kept := fun _ => Kept.blank }

def Store.new (launch : Launch) : Store := { file := if launch.durable then some DesktopWorkspaceWire.default else none }

def World.start (launch : Launch) : World where
  model := boot launch (Store.new launch)
  store := Store.new launch
  awaiting := []
  late := []
  orphaned := []
  kept := fun _ => Kept.blank

def run (launch : Launch) (events : List Event) : World := events.foldl (step launch) (World.start launch)

/-! ## What is safe -/

/-- The snapshot is of the tabs of the client. -/
structure Shows (snapshot : DesktopWorkspaceWire) (m : Model) : Prop where
  sessions : snapshot.sessions = m.sessionSlots.map Session.wire
  active : snapshot.activeSessionId = m.activeSessionId
  next : snapshot.nextSessionId = m.nextSessionId

/-- Sessions are distinct, keep what is theirs, and are what Rust's snapshot restores. -/
structure Safe (launch : Launch) (w : World) : Prop where
  distinct : w.model.sessionIds.Nodup
  nonzero : 0 ∉ w.model.sessionIds
  active : w.model.activeSessionId ∈ w.model.sessionIds
  keeps : Keeps w.kept w.model
  /-- At most one persist is in flight. -/
  one : w.awaiting.length ≤ 1
  /-- The request on the way has a larger revision than what Rust has stored, and Rust takes it. -/
  accepted : ∀ request ∈ w.awaiting, request.status = none →
    w.store.snapshot.revision < request.snapshot.revision ∧ validateDesktopWorkspace request.snapshot = true ∧
      (w.store.updateDesktopWorkspace request.snapshot .written).2 = 204
  /-- The client restores what Rust has stored. -/
  restores : w.model.desktopWorkspaceEnabled = true →
    ∃ m, (initializeModelWithDesktopServices launch).restoreDesktopWorkspace w.store.snapshot.json.utf8ByteSize
      (some w.store.snapshot) = some m ∧ m.desktopWorkspace = w.store.snapshot
  /-- Once Rust has stored the client's revision, that is the client as it is. -/
  current : w.model.desktopWorkspaceEnabled = true → w.model.desktopWorkspaceRevision < maxRevision →
    w.store.snapshot.revision = w.model.desktopWorkspaceRevision → Shows w.store.snapshot w.model

/-- The condition: the id after the next session's is not open when a session is opened, and Rust comes to a request of
an earlier client only where it refuses it as old, or where the client has a newer one on the way. -/
def InOrder (w : World) : Event → Prop
  | .chooseTerminal => NextFree w.model
  | .chooseAgent provider =>
      ¬(w.model.availableAgentProviders ≠ [] ∧ w.model.agentProviderAvailable provider = false) → NextFree w.model
  | .openLoginTerminal provider => provider.loginCommand ≠ none → NextFree w.model
  | .handleOrphaned index _ => ∀ snapshot ∈ w.orphaned[index]?, snapshot.revision ≤ w.store.snapshot.revision ∨
      snapshot.revision < w.model.desktopWorkspaceInFlightRevision
  | _ => True

instance (w : World) : (event : Event) → Decidable (InOrder w event)
  | .chooseTerminal => inferInstanceAs (Decidable (NextFree w.model))
  | .chooseAgent provider => inferInstanceAs (Decidable (¬(w.model.availableAgentProviders ≠ [] ∧
      w.model.agentProviderAvailable provider = false) → NextFree w.model))
  | .openLoginTerminal provider => inferInstanceAs (Decidable (provider.loginCommand ≠ none → NextFree w.model))
  | .handleOrphaned index _ => inferInstanceAs (Decidable (∀ snapshot ∈ w.orphaned[index]?,
      snapshot.revision ≤ w.store.snapshot.revision ∨ snapshot.revision < w.model.desktopWorkspaceInFlightRevision))
  | .selectSession _ | .closeSession _ | .closeActiveSession | .agentComposerChanged _ | .pendingPromptChanged _ _
  | .agentConnectionChanged _ _ | .agentProvidersRefreshed _ _ _ | .handle _ _ | .handleLate _ _ | .respond _ _
  | .restartClient | .restartDesktop => .isTrue trivial

/-- The events happen within the condition. -/
def AllInOrder (launch : Launch) : World → List Event → Prop
  | _, [] => True
  | w, event :: events => InOrder w event ∧ AllInOrder launch (step launch w event) events

instance instDecidableAllInOrder (launch : Launch) : (w : World) → (events : List Event) → Decidable (AllInOrder launch w events)
  | _, [] => .isTrue trivial
  | w, event :: events =>
      have := instDecidableAllInOrder launch (step launch w event) events
      inferInstanceAs (Decidable (InOrder w event ∧ AllInOrder launch (step launch w event) events))

/-! ## Persisting -/

/-- What a persist makes of a well-formed client. -/
structure Persisted (kept : UInt8 → Kept) (m : Model) (out : Model × Model.Sent) : Prop where
  wellFormed : WellFormed out.1
  keeps : Keeps kept out.1
  enabled : out.1.desktopWorkspaceEnabled = m.desktopWorkspaceEnabled
  sound : ∀ snapshot ∈ out.2, m.desktopWorkspaceEnabled = true ∧ Sound snapshot

theorem persisted_self {kept : UInt8 → Kept} {m : Model} (h : WellFormed m) (hk : Keeps kept m) :
    Persisted kept m (m, none) :=
  ⟨h, hk, rfl, fun _ hs => nomatch hs⟩

theorem persisted_request {kept : UInt8 → Kept} {m : Model} (h : WellFormed m) (hk : Keeps kept m) :
    Persisted kept m m.requestDesktopWorkspacePersist := by
  unfold Model.requestDesktopWorkspacePersist
  split
  · exact persisted_self h hk
  · next hidle =>
      split
      · exact persisted_self h hk
      · refine ⟨⟨h.drafts, h.pending, h.limit, h.nodup, h.nonzero, h.active, h.nextNonzero, h.next, h.revision⟩, hk, rfl, ?_⟩
        intro snapshot hs
        cases hs
        exact ⟨Bool.of_not_eq_false fun hoff => hidle (Or.inl hoff), sound_desktopWorkspace h⟩

theorem persisted_mark {kept : UInt8 → Kept} {m : Model} (h : WellFormed m) (hk : Keeps kept m) :
    Persisted kept m m.markDesktopWorkspaceChanged := by
  unfold Model.markDesktopWorkspaceChanged
  split
  · exact persisted_self h hk
  · next hchanged =>
      have hlt : m.desktopWorkspaceRevision + 1 ≤ maxRevision :=
        Nat.lt_of_le_of_ne h.revision fun hmax => hchanged (Or.inr hmax)
      have hnext : WellFormed { m with desktopWorkspaceRevision := m.desktopWorkspaceRevision + 1 } :=
        ⟨h.drafts, h.pending, h.limit, h.nodup, h.nonzero, h.active, h.nextNonzero, h.next, hlt⟩
      obtain ⟨hwf, hkeeps, henabled, hsound⟩ := persisted_request hnext hk
      exact ⟨hwf, hkeeps, henabled, hsound⟩

theorem persisted_apply {kept : UInt8 → Kept} {m : Model} (h : WellFormed m) (hk : Keeps kept m) (persisted : Bool) :
    Persisted kept m (m.applyDesktopWorkspacePersisted persisted) := by
  unfold Model.applyDesktopWorkspacePersisted
  split
  · exact persisted_self h hk
  · dsimp only
    have hdone : ∀ p, WellFormed { m with desktopWorkspaceInFlightRevision := 0, desktopWorkspacePersistedRevision := p } :=
      fun _ => ⟨h.drafts, h.pending, h.limit, h.nodup, h.nonzero, h.active, h.nextNonzero, h.next, h.revision⟩
    split
    · obtain ⟨hwf, hkeeps, henabled, hsound⟩ := persisted_request (hdone _) hk
      exact ⟨hwf, hkeeps, henabled, hsound⟩
    · obtain ⟨hwf, hkeeps, henabled, hsound⟩ := persisted_self (hdone _) hk
      exact ⟨hwf, hkeeps, henabled, hsound⟩

/-! ## Revisions -/

/-- Which revisions are on the way to Rust. `known` is what Rust has stored, and what may reach it late. -/
structure Followed (m : Model) (known : List DesktopWorkspaceWire) (awaiting : List Request) : Prop where
  bounded : ∀ snapshot ∈ known, snapshot.revision ≤ m.desktopWorkspaceRevision
  shown : m.desktopWorkspaceRevision < maxRevision → ∀ snapshot ∈ known ++ awaiting.map Request.snapshot,
    snapshot.revision = m.desktopWorkspaceRevision → Shows snapshot m
  inFlight : (awaiting = [] ∧ m.desktopWorkspaceInFlightRevision = 0) ∨
    ∃ request, awaiting = [request] ∧ m.desktopWorkspaceInFlightRevision = request.snapshot.revision ∧
      request.snapshot.revision ≠ 0 ∧ request.snapshot.revision ≤ m.desktopWorkspaceRevision ∧
      (∀ snapshot ∈ known, snapshot.revision ≤ request.snapshot.revision) ∧
      (request.status = none → ∀ snapshot ∈ known, snapshot.revision < request.snapshot.revision)

variable {m m₁ : Model} {known known' : List DesktopWorkspaceWire} {awaiting : List Request}

theorem Followed.subset (h : Followed m known awaiting) (hsub : ∀ snapshot ∈ known', snapshot ∈ known) :
    Followed m known' awaiting := by
  refine ⟨fun s hs => h.bounded s (hsub s hs), fun hlt s hs => ?_, ?_⟩
  · refine h.shown hlt s ?_
    rw [List.mem_append] at hs ⊢
    exact hs.imp_left (hsub s)
  · obtain hidle | ⟨request, hawait, heq, hne, hle, hall, hnew⟩ := h.inFlight
    · exact Or.inl hidle
    · exact Or.inr ⟨request, hawait, heq, hne, hle, fun s hs => hall s (hsub s hs),
        fun hnone s hs => hnew hnone s (hsub s hs)⟩

theorem Shows.sameTabs {snapshot : DesktopWorkspaceWire} (h : Shows snapshot m) (hsame : SameTabs m m₁) :
    Shows snapshot m₁ :=
  ⟨h.sessions.trans hsame.sessions.symm, h.active.trans hsame.active.symm, h.next.trans hsame.next.symm⟩

theorem Followed.quiet (h : Followed m known awaiting) (hpersist : SamePersist m m₁) (htabs : SameTabs m m₁) :
    Followed m₁ known awaiting := by
  refine ⟨?_, ?_, ?_⟩
  · rw [hpersist.revision]
    exact h.bounded
  · rw [hpersist.revision]
    exact fun hlt s hs he => (h.shown hlt s hs he).sameTabs htabs
  · rw [hpersist.revision, hpersist.inFlight]
    exact h.inFlight

theorem Followed.request (h : Followed m known awaiting)
    (hnew : awaiting = [] → ∀ snapshot ∈ known, snapshot.revision < m.desktopWorkspaceRevision) :
    Followed m.requestDesktopWorkspacePersist.1 known (awaiting ++ sent m.requestDesktopWorkspacePersist.2) := by
  have hquiet : Followed m known (awaiting ++ sent none) := by
    rw [show sent none = [] from rfl, List.append_nil]
    exact h
  unfold Model.requestDesktopWorkspacePersist
  split
  · exact hquiet
  · next hidle =>
      split
      · exact hquiet
      · simp only [not_or, ne_eq, not_not, not_le] at hidle
        obtain ⟨-, hzero, hpersisted⟩ := hidle
        obtain ⟨hempty, -⟩ | ⟨request, -, heq, hne, -⟩ := h.inFlight
        · subst hempty
          refine ⟨h.bounded, ?_, Or.inr ⟨⟨m.desktopWorkspace, none⟩, rfl, rfl, ?_, le_refl _, ?_, ?_⟩⟩
          · intro hlt snapshot hs he
            rw [List.mem_append] at hs
            obtain hold | hsent := hs
            · exact absurd he (hnew rfl snapshot hold).ne
            · rw [List.mem_singleton.mp hsent]
              exact ⟨rfl, rfl, rfl⟩
          · exact (lt_of_le_of_lt (Nat.zero_le _) hpersisted).ne'
          · exact fun snapshot hs => (hnew rfl snapshot hs).le
          · exact fun _ snapshot hs => hnew rfl snapshot hs
        · exact absurd (heq.symm.trans hzero) hne

theorem Followed.mark (h : Followed m known awaiting) (hpersist : SamePersist m m₁)
    (henabled : m.desktopWorkspaceEnabled = true) :
    Followed m₁.markDesktopWorkspaceChanged.1 known (awaiting ++ sent m₁.markDesktopWorkspaceChanged.2) := by
  unfold Model.markDesktopWorkspaceChanged
  split
  · next hstuck =>
      have hmax : m₁.desktopWorkspaceRevision = maxRevision := by
        refine hstuck.resolve_left ?_
        rw [hpersist.enabled, henabled]
        decide
      rw [show sent none = [] from rfl, List.append_nil]
      refine ⟨?_, fun hlt => absurd hmax hlt.ne, ?_⟩
      · rw [hpersist.revision]
        exact h.bounded
      · rw [hpersist.revision, hpersist.inFlight]
        exact h.inFlight
  · have hbounded : ∀ snapshot ∈ known, snapshot.revision < m₁.desktopWorkspaceRevision + 1 := by
      rw [hpersist.revision]
      exact fun snapshot hs => Nat.lt_succ_of_le (h.bounded snapshot hs)
    apply Followed.request
    · refine ⟨fun snapshot hs => (hbounded snapshot hs).le, ?_, ?_⟩
      · intro _ snapshot hs he
        have hlt : snapshot.revision < m₁.desktopWorkspaceRevision + 1 := by
          rw [List.mem_append] at hs
          obtain hold | hsent := hs
          · exact hbounded snapshot hold
          · obtain ⟨hempty, -⟩ | ⟨request, hawait, -, -, hle, -⟩ := h.inFlight
            · rw [hempty] at hsent
              cases hsent
            · rw [hawait] at hsent
              rw [List.mem_singleton.mp hsent, hpersist.revision]
              exact Nat.lt_succ_of_le hle
        exact absurd he hlt.ne
      · obtain ⟨hempty, hzero⟩ | ⟨request, hawait, heq, hne, hle, hall⟩ := h.inFlight
        · exact Or.inl ⟨hempty, hpersist.inFlight.trans hzero⟩
        · refine Or.inr ⟨request, hawait, hpersist.inFlight.trans heq, hne, ?_, hall⟩
          rw [← hpersist.revision] at hle
          exact Nat.le_succ_of_le hle
    · exact fun _ => hbounded

/-- The answer to the request on the way, or an error in its place. -/
theorem Followed.respond {request : Request} (h : Followed m known [request])
    (hknown : ∀ snapshot ∈ known', snapshot ∈ known ∨ snapshot = request.snapshot) (persisted : Bool) :
    Followed (m.applyDesktopWorkspacePersisted persisted).1 known'
      (sent (m.applyDesktopWorkspacePersisted persisted).2) := by
  obtain ⟨hempty, -⟩ | ⟨request', hawait, heq, hne, hle, hall, -⟩ := h.inFlight
  · cases hempty
  · cases hawait
    have hbound : ∀ snapshot ∈ known', snapshot.revision ≤ request.snapshot.revision := by
      intro snapshot hs
      obtain hold | hsame := hknown snapshot hs
      · exact hall snapshot hold
      · rw [hsame]
    have hdone : ∀ p, Followed { m with
        desktopWorkspaceInFlightRevision := 0, desktopWorkspacePersistedRevision := p } known' [] := by
      intro p
      refine ⟨fun snapshot hs => (hbound snapshot hs).trans hle, ?_, Or.inl ⟨rfl, rfl⟩⟩
      intro hlt snapshot hs he
      rw [List.map_nil, List.append_nil] at hs
      have hmem : snapshot ∈ known ++ [request].map Request.snapshot := by
        rw [List.mem_append]
        exact (hknown snapshot hs).imp_right fun hsame => List.mem_singleton.mpr hsame
      obtain ⟨hsessions, hactive, hnext⟩ := h.shown hlt snapshot hmem he
      exact ⟨hsessions, hactive, hnext⟩
    unfold Model.applyDesktopWorkspacePersisted
    rw [if_neg (heq ▸ hne)]
    dsimp only
    split
    · next hgt =>
        refine Followed.request (hdone _) fun _ snapshot hs => lt_of_le_of_lt (hbound snapshot hs) ?_
        rw [← heq]
        exact hgt
    · exact hdone _

/-- Rust has come to a snapshot that the client had sent. -/
theorem Followed.store {store store' : Store} {late : List DesktopWorkspaceWire} {request : Request}
    (h : Followed m (store.snapshot :: late) [request])
    (hupdated : Updated store request.snapshot store') (status : Nat) :
    Followed m (store'.snapshot :: late) [⟨request.snapshot, some status⟩] := by
  have hknown : ∀ snapshot ∈ store'.snapshot :: late,
      snapshot ∈ store.snapshot :: late ∨ snapshot = request.snapshot := by
    intro snapshot hs
    rw [List.mem_cons] at hs
    obtain rfl | hlate := hs
    · obtain hsame | ⟨htaken, -⟩ := hupdated.snapshot
      · exact Or.inl (hsame ▸ List.mem_cons_self)
      · exact Or.inr htaken
    · exact Or.inl (List.mem_cons_of_mem _ hlate)
  obtain ⟨hempty, -⟩ | ⟨request', hawait, heq, hne, hle, hall, -⟩ := h.inFlight
  · cases hempty
  · cases hawait
    have hbound : ∀ snapshot ∈ store'.snapshot :: late, snapshot.revision ≤ request.snapshot.revision := by
      intro snapshot hs
      obtain hold | hsame := hknown snapshot hs
      · exact hall snapshot hold
      · rw [hsame]
    refine ⟨fun snapshot hs => (hbound snapshot hs).trans hle, ?_, ?_⟩
    · intro hlt snapshot hs he
      refine h.shown hlt snapshot ?_ he
      rw [List.mem_append] at hs ⊢
      obtain hs | hs := hs
      · exact (hknown snapshot hs).imp_right fun hsame => List.mem_singleton.mpr hsame
      · exact Or.inr hs
    · exact Or.inr ⟨_, rfl, heq, hne, hle, hbound, fun hnone => nomatch hnone⟩

/-! ## The invariant -/

structure Inv (launch : Launch) (w : World) : Prop where
  wellFormed : WellFormed w.model
  keeps : Keeps w.kept w.model
  enabled : w.model.desktopWorkspaceEnabled = (initializeModelWithDesktopServices launch).desktopWorkspaceEnabled
  followed : w.model.desktopWorkspaceEnabled = true → Followed w.model (w.store.snapshot :: w.late) w.awaiting
  idle : w.model.desktopWorkspaceEnabled = false → w.awaiting = []
  soundStore : Sound w.store.snapshot
  soundFile : ∀ snapshot ∈ w.store.file, Sound snapshot
  soundAwaiting : ∀ request ∈ w.awaiting, Sound request.snapshot
  soundLate : ∀ snapshot ∈ w.late, Sound snapshot
  soundOrphaned : ∀ snapshot ∈ w.orphaned, Sound snapshot

variable {launch : Launch} {w : World}

theorem initializeModel_isCapsule (henabled : (initializeModelWithDesktopServices launch).desktopWorkspaceEnabled = true) :
    (initializeModelWithDesktopServices launch).isCapsule = false := by
  unfold initializeModelWithDesktopServices at henabled ⊢
  cases hcapsule : launch.capsule with
  | true =>
      rw [hcapsule] at henabled
      split at henabled <;> cases henabled
  | false => split <;> rfl

/-- The client has one tab, and nothing is typed. -/
structure OneTab (m : Model) : Prop where
  sessions : ∃ session : Session, session.id = 1 ∧ m.sessionSlots = [session]
  active : m.activeSessionId = 1
  next : m.nextSessionId = 2
  buffer : m.agentComposerBuffer = ""
  drafts : m.agentComposerDrafts = [""]
  pending : m.agentPendingPrompts = [""]
  revision : m.desktopWorkspaceRevision = 0

theorem oneTab_initializeModel (launch : Launch) : OneTab (initializeModelWithDesktopServices launch) := by
  unfold initializeModelWithDesktopServices
  split <;> split <;> exact ⟨⟨_, rfl, rfl⟩, rfl, rfl, rfl, rfl, rfl, rfl⟩

theorem OneTab.sessionIds (h : OneTab m) : m.sessionIds = [1] := by
  obtain ⟨session, hid, hslots⟩ := h.sessions
  rw [Model.sessionIds, hslots, List.map_singleton, hid]

theorem OneTab.wellFormed (h : OneTab m) : WellFormed m := by
  obtain ⟨session, -, hslots⟩ := h.sessions
  have hids := h.sessionIds
  constructor
  · rw [h.drafts, hslots]
    rfl
  · rw [h.pending, hslots]
    rfl
  · rw [hslots]
    exact Nat.le_add_left 1 7
  · rw [hids]
    exact List.nodup_singleton 1
  · rw [hids]
    decide
  · rw [hids, h.active]
    decide
  · rw [h.next]
    decide
  · rw [hids, h.next]
    decide
  · rw [h.revision]
    exact Nat.zero_le _

theorem OneTab.keeps (h : OneTab m) : Keeps (fun _ => Kept.blank) m := by
  have hindex : m.activeSessionIndex = 0 := by
    rw [h.wellFormed.activeSessionIndex, h.sessionIds, h.active]
    rfl
  intro i sessionId hi
  change m.sessionIds[i]? = _ at hi
  rw [h.sessionIds] at hi
  show (m.agentComposerDrafts.set m.activeSessionIndex m.agentComposerBuffer)[i]? = _ ∧ m.agentPendingPrompts[i]? = _
  rw [h.drafts, h.buffer, h.pending, hindex]
  cases i with
  | zero => exact ⟨rfl, rfl⟩
  | succ i => cases hi

theorem inv_boot {store : Store} (hstore : Sound store.snapshot) (hfile : ∀ snapshot ∈ store.file, Sound snapshot)
    {orphaned : List DesktopWorkspaceWire} (horphaned : ∀ snapshot ∈ orphaned, Sound snapshot) :
    Inv launch ⟨boot launch store, store, [], [], orphaned, fun _ => Kept.blank⟩ := by
  unfold boot
  dsimp only
  cases henabled : (initializeModelWithDesktopServices launch).desktopWorkspaceEnabled with
  | true =>
      obtain ⟨m, hrestore, hsnapshot, hwf, hkeeps, hm, hflight⟩ :=
        restoreDesktopWorkspace_of_sound henabled (initializeModel_isCapsule henabled) hstore
      rw [hrestore, Option.getD_some]
      refine ⟨hwf, hkeeps, hm.trans henabled.symm, fun _ => ?_, fun _ => rfl, hstore, hfile, List.forall_mem_nil _,
        List.forall_mem_nil _, horphaned⟩
      have hrevision : m.desktopWorkspaceRevision = store.snapshot.revision :=
        congrArg DesktopWorkspaceWire.revision hsnapshot
      refine ⟨?_, ?_, Or.inl ⟨rfl, hflight⟩⟩
      · intro snapshot hs
        rw [List.mem_singleton.mp hs, hrevision]
      · intro _ snapshot hs _
        rw [List.map_nil, List.append_nil] at hs
        rw [List.mem_singleton.mp hs, ← hsnapshot]
        exact ⟨rfl, rfl, rfl⟩
  | false =>
      have hoff : (initializeModelWithDesktopServices launch).restoreDesktopWorkspace store.snapshot.json.utf8ByteSize
          (some store.snapshot) = none := by
        unfold Model.restoreDesktopWorkspace
        rw [if_pos (Or.inl henabled)]
      rw [hoff, Option.getD_none]
      have hone := oneTab_initializeModel launch
      refine ⟨hone.wellFormed, hone.keeps, rfl, fun hon => ?_, fun _ => rfl, hstore,
        hfile, List.forall_mem_nil _, List.forall_mem_nil _, horphaned⟩
      exact absurd (henabled.symm.trans hon) (by decide)

theorem Inv.tell (h : Inv launch w) {kept : UInt8 → Kept} {out : Model × Model.Sent} (hout : Retabbed kept w.model out) :
    Inv launch (w.tell out kept) := by
  cases hout with
  | quiet m₁ hwf hkeeps hpersist htabs =>
      have hawaiting : (w.tell (m₁, none) kept).awaiting = w.awaiting := List.append_nil _
      refine ⟨hwf, hkeeps, hpersist.enabled.trans h.enabled, ?_, ?_, h.soundStore, h.soundFile, ?_, h.soundLate,
        h.soundOrphaned⟩
      · intro hon
        rw [hawaiting]
        exact (h.followed (hpersist.enabled.symm.trans hon)).quiet hpersist htabs
      · intro hoff
        rw [hawaiting]
        exact h.idle (hpersist.enabled.symm.trans hoff)
      · rw [hawaiting]
        exact h.soundAwaiting
  | marked m₁ hwf hkeeps hpersist =>
      obtain ⟨hwf', hkeeps', henabled, hsound⟩ := persisted_mark hwf hkeeps
      have henabled' := henabled.trans hpersist.enabled
      refine ⟨hwf', hkeeps', henabled'.trans h.enabled, ?_, ?_, h.soundStore, h.soundFile, ?_, h.soundLate,
        h.soundOrphaned⟩
      · intro hon
        have hbefore : w.model.desktopWorkspaceEnabled = true := henabled'.symm.trans hon
        exact (h.followed hbefore).mark hpersist hbefore
      · intro hoff
        have hbefore : w.model.desktopWorkspaceEnabled = false := henabled'.symm.trans hoff
        show w.awaiting ++ sent m₁.markDesktopWorkspaceChanged.2 = []
        rw [h.idle hbefore]
        unfold Model.markDesktopWorkspaceChanged
        rw [if_pos (Or.inl (hpersist.enabled.trans hbefore))]
        rfl
      · intro request hr
        obtain hold | hnew := List.mem_append.mp hr
        · exact h.soundAwaiting request hold
        · obtain ⟨snapshot, hsent, rfl⟩ := List.mem_map.mp hnew
          exact (hsound snapshot (Option.mem_toList.mp hsent)).2

theorem Inv.only (h : Inv launch w) {index : Nat} {request : Request} (hget : w.awaiting[index]? = some request) :
    w.model.desktopWorkspaceEnabled = true ∧ w.awaiting = [request] ∧ index = 0 := by
  have hne : w.awaiting ≠ [] := by
    intro hempty
    rw [hempty] at hget
    cases hget
  have hon : w.model.desktopWorkspaceEnabled = true := by
    cases henabled : w.model.desktopWorkspaceEnabled with
    | true => rfl
    | false => exact absurd (h.idle henabled) hne
  obtain ⟨hempty, -⟩ | ⟨request', hawait, -⟩ := (h.followed hon).inFlight
  · exact absurd hempty hne
  · rw [hawait] at hget ⊢
    cases index with
    | zero =>
        cases hget
        exact ⟨hon, rfl, rfl⟩
    | succ index => cases hget

theorem Updated.sound {store store' : Store} {next : DesktopWorkspaceWire} (h : Updated store next store')
    (hnext : Sound next) (hstore : Sound store.snapshot) (hfile : ∀ snapshot ∈ store.file, Sound snapshot) :
    Sound store'.snapshot ∧ ∀ snapshot ∈ store'.file, Sound snapshot := by
  constructor
  · obtain hsame | ⟨htaken, -⟩ := h.snapshot
    · rw [hsame]
      exact hstore
    · rw [htaken]
      exact hnext
  · obtain hsame | htaken := h.file
    · rw [hsame]
      exact hfile
    · rw [htaken]
      intro snapshot hs
      cases hs
      exact hnext

theorem Inv.handled (h : Inv launch w) (index : Nat) (replaced : Replaced) : Inv launch (w.handled index replaced) := by
  unfold World.handled
  split
  · next snapshot hget =>
      obtain ⟨hon, hawait, rfl⟩ := h.only hget
      have hfollowed := h.followed hon
      rw [hawait] at hfollowed
      have hupdated := updated_updateDesktopWorkspace w.store snapshot replaced
      have hsnapshot : Sound snapshot := h.soundAwaiting ⟨snapshot, none⟩ (List.mem_of_getElem? hget)
      obtain ⟨hstore, hfile⟩ := hupdated.sound hsnapshot h.soundStore h.soundFile
      refine ⟨h.wellFormed, h.keeps, h.enabled, fun _ => ?_, fun hoff => absurd (hon.symm.trans hoff) (by decide), hstore,
        hfile, ?_, h.soundLate, h.soundOrphaned⟩
      · show Followed _ _ (w.awaiting.set 0 _)
        rw [hawait]
        exact hfollowed.store hupdated _
      · intro request hr
        change request ∈ w.awaiting.set 0 _ at hr
        rw [hawait] at hr
        rw [List.mem_singleton.mp hr]
        exact hsnapshot
  · exact h

/-- A request that the client has given up on is older than the one on the way. -/
theorem Inv.handleLate (h : Inv launch w) (index : Nat) (replaced : Replaced) :
    Inv launch (step launch w (.handleLate index replaced)) := by
  unfold step
  dsimp only
  split
  · exact h
  · next snapshot hget =>
      have hmem : snapshot ∈ w.late := List.mem_of_getElem? hget
      have hupdated := updated_updateDesktopWorkspace w.store snapshot replaced
      obtain ⟨hstore, hfile⟩ := hupdated.sound (h.soundLate snapshot hmem) h.soundStore h.soundFile
      have hsub : ∀ {other : DesktopWorkspaceWire}, other ∈ w.late.eraseIdx index → other ∈ w.late :=
        List.mem_of_mem_eraseIdx
      refine ⟨h.wellFormed, h.keeps, h.enabled, fun hon => ?_, h.idle, hstore, hfile, h.soundAwaiting,
        fun other hother => h.soundLate other (hsub hother), h.soundOrphaned⟩
      refine (h.followed hon).subset fun other hother => ?_
      rw [List.mem_cons] at hother ⊢
      obtain rfl | hother := hother
      · obtain hsame | ⟨htaken, -⟩ := hupdated.snapshot
        · exact Or.inl hsame
        · refine Or.inr ?_
          show (w.store.updateDesktopWorkspace snapshot replaced).1.snapshot ∈ w.late
          rw [htaken]
          exact hmem
      · exact Or.inr (hsub hother)

/-- A request of an earlier client, that is refused or is older than the one on the way. -/
theorem Inv.handleOrphaned (h : Inv launch w) {index : Nat} (replaced : Replaced)
    (horder : InOrder w (.handleOrphaned index replaced)) :
    Inv launch (step launch w (.handleOrphaned index replaced)) := by
  unfold step
  dsimp only
  split
  · exact h
  · next snapshot hget =>
      have hmem : snapshot ∈ w.orphaned := List.mem_of_getElem? hget
      have hupdated := updated_updateDesktopWorkspace w.store snapshot replaced
      obtain ⟨hstore, hfile⟩ := hupdated.sound (h.soundOrphaned snapshot hmem) h.soundStore h.soundFile
      have hsub : ∀ {other : DesktopWorkspaceWire}, other ∈ w.orphaned.eraseIdx index → other ∈ w.orphaned :=
        List.mem_of_mem_eraseIdx
      refine ⟨h.wellFormed, h.keeps, h.enabled, fun hon => ?_, h.idle, hstore, hfile, h.soundAwaiting, h.soundLate,
        fun other hother => h.soundOrphaned other (hsub hother)⟩
      have hfollowed := h.followed hon
      obtain hsame | ⟨htaken, hlt⟩ := hupdated.snapshot
      · show Followed _ ((w.store.updateDesktopWorkspace snapshot replaced).1.snapshot :: w.late) _
        rw [hsame]
        exact hfollowed
      · have holder : snapshot.revision < w.model.desktopWorkspaceInFlightRevision :=
          (horder snapshot hget).resolve_left (Nat.not_le.mpr hlt)
        obtain ⟨-, hzero⟩ | ⟨request, hawait, heq, hne, hle, hall, hnew⟩ := hfollowed.inFlight
        · rw [hzero] at holder
          exact absurd holder (Nat.not_lt_zero _)
        · rw [heq] at holder
          have hbound : ∀ other ∈ snapshot :: w.late, other = snapshot ∨ other ∈ w.store.snapshot :: w.late := by
            intro other hother
            exact (List.mem_cons.mp hother).imp_right (List.mem_cons_of_mem _)
          show Followed _ ((w.store.updateDesktopWorkspace snapshot replaced).1.snapshot :: w.late) _
          rw [htaken]
          refine ⟨?_, ?_, Or.inr ⟨request, hawait, heq, hne, hle, ?_, ?_⟩⟩
          · intro other hother
            obtain rfl | hold := hbound other hother
            · exact holder.le.trans hle
            · exact hfollowed.bounded other hold
          · intro hmax other hother he
            obtain hother | hother := List.mem_append.mp hother
            · obtain rfl | hold := hbound other hother
              · exact absurd he (lt_of_lt_of_le holder hle).ne
              · exact hfollowed.shown hmax other (List.mem_append_left _ hold) he
            · exact hfollowed.shown hmax other (List.mem_append_right _ hother) he
          · intro other hother
            obtain rfl | hold := hbound other hother
            · exact holder.le
            · exact hall other hold
          · intro hnone other hother
            obtain rfl | hold := hbound other hother
            · exact holder
            · exact hnew hnone other hold

theorem Inv.responded (h : Inv launch w) (index : Nat) (arrives : Bool) : Inv launch (w.responded index arrives) := by
  unfold World.responded
  split
  · exact h
  · next request hget =>
      obtain ⟨hon, hawait, rfl⟩ := h.only hget
      have hfollowed := h.followed hon
      rw [hawait] at hfollowed
      obtain ⟨hwf, hkeeps, henabled, hsound⟩ :=
        persisted_apply h.wellFormed h.keeps (arrives && decide (request.status = some 204))
      have hrequest : Sound request.snapshot := h.soundAwaiting request (List.mem_of_getElem? hget)
      have hempty : w.awaiting.eraseIdx 0 = [] := by
        rw [hawait]
        rfl
      have hlate : ∀ snapshot ∈ (if request.status = none then w.late ++ [request.snapshot] else w.late),
          snapshot ∈ w.late ∨ snapshot = request.snapshot := by
        intro snapshot hs
        split at hs
        · exact (List.mem_append.mp hs).imp_right List.mem_singleton.mp
        · exact Or.inl hs
      refine ⟨hwf, hkeeps, henabled.trans h.enabled, fun _ => ?_,
        fun hoff => absurd (hon.symm.trans (henabled.symm.trans hoff)) (by decide), h.soundStore, h.soundFile, ?_, ?_,
        h.soundOrphaned⟩
      · show Followed _ _ (w.awaiting.eraseIdx 0 ++ _)
        rw [hempty]
        refine hfollowed.respond (fun snapshot hs => ?_) _
        obtain rfl | hs := List.mem_cons.mp hs
        · exact Or.inl List.mem_cons_self
        · exact (hlate snapshot hs).imp_left (List.mem_cons_of_mem _)
      · intro other hother
        change other ∈ w.awaiting.eraseIdx 0 ++ _ at hother
        rw [hempty] at hother
        obtain ⟨snapshot, hsent, rfl⟩ := List.mem_map.mp hother
        exact (hsound snapshot (Option.mem_toList.mp hsent)).2
      · intro snapshot hs
        obtain hold | rfl := hlate snapshot hs
        · exact h.soundLate snapshot hold
        · exact hrequest

theorem Inv.unseen (h : Inv launch w) : ∀ snapshot ∈ w.unseen, Sound snapshot := by
  intro snapshot hs
  unfold World.unseen at hs
  rw [List.mem_append, List.mem_append] at hs
  obtain (hs | hs) | hs := hs
  · exact h.soundOrphaned snapshot hs
  · exact h.soundLate snapshot hs
  · obtain ⟨request, hmem, rfl⟩ := List.mem_map.mp hs
    exact h.soundAwaiting request (List.mem_of_mem_filter hmem)

theorem Inv.reopen (h : Inv launch w) :
    Sound w.store.reopen.snapshot ∧ ∀ snapshot ∈ w.store.reopen.file, Sound snapshot := by
  unfold Store.reopen
  split
  · exact ⟨sound_default, fun _ hs => nomatch hs⟩
  · next snapshot hfile =>
      split
      · refine ⟨sound_default, fun other hother => ?_⟩
        cases hother
        exact sound_default
      · refine ⟨h.soundFile snapshot hfile, fun other hother => ?_⟩
        cases hother
        exact h.soundFile snapshot hfile

theorem Inv.step (h : Inv launch w) {event : Event} (horder : InOrder w event) : Inv launch (step launch w event) := by
  cases event with
  | chooseTerminal => exact h.tell (retabbed_chooseTerminal h.wellFormed h.keeps horder)
  | chooseAgent provider => exact h.tell (retabbed_createAgentSession h.wellFormed h.keeps provider horder)
  | openLoginTerminal provider => exact h.tell (retabbed_openProviderLoginTerminal h.wellFormed h.keeps provider horder)
  | selectSession sessionId => exact h.tell (retabbed_chooseSession h.wellFormed h.keeps sessionId)
  | closeSession sessionId => exact h.tell (retabbed_closeSession h.wellFormed h.keeps sessionId)
  | closeActiveSession => exact h.tell (retabbed_closeSession h.wellFormed h.keeps w.model.activeSessionId)
  | agentComposerChanged text => exact h.tell (retabbed_agentComposerChanged h.wellFormed h.keeps text)
  | pendingPromptChanged sessionId text =>
      exact h.tell (retabbed_setPendingAgentPrompt h.wellFormed h.keeps sessionId text)
  | agentConnectionChanged sessionId connection =>
      exact h.tell ((sameContents_setAgentConnection w.model sessionId connection).retabbed h.wellFormed h.keeps)
  | agentProvidersRefreshed available authenticated sessionAuth =>
      exact h.tell ((sameContents_applyAgentProviderRefresh w.model available authenticated sessionAuth).retabbed
        h.wellFormed h.keeps)
  | handle index replaced => exact h.handled index replaced
  | handleLate index replaced => exact h.handleLate index replaced
  | handleOrphaned index replaced => exact h.handleOrphaned replaced horder
  | respond index arrives => exact h.responded index arrives
  | restartClient => exact inv_boot h.soundStore h.soundFile h.unseen
  | restartDesktop => exact inv_boot h.reopen.1 h.reopen.2 (List.forall_mem_nil _)

theorem inv_start (launch : Launch) : Inv launch (World.start launch) := by
  refine inv_boot sound_default ?_ (List.forall_mem_nil _)
  intro snapshot hs
  unfold Store.new at hs
  split at hs
  · cases hs
    exact sound_default
  · cases hs

theorem Inv.run (h : Inv launch w) {events : List Event} (horder : AllInOrder launch w events) :
    Inv launch (events.foldl (Desktop.step launch) w) := by
  induction events generalizing w with
  | nil => exact h
  | cons event events ih => exact ih (h.step horder.1) horder.2

theorem Inv.safe (h : Inv launch w) : Safe launch w where
  distinct := h.wellFormed.nodup
  nonzero := h.wellFormed.nonzero
  active := h.wellFormed.active
  keeps := h.keeps
  one := by
    cases hawait : w.awaiting with
    | nil => exact Nat.zero_le 1
    | cons request rest =>
        have hget : w.awaiting[0]? = some request := by
          rw [hawait]
          rfl
        rw [(h.only hget).2.1] at hawait
        cases hawait
        exact le_refl 1
  accepted request hr hnone := by
    obtain ⟨index, hget⟩ := List.getElem?_of_mem hr
    obtain ⟨hon, hawait, -⟩ := h.only hget
    obtain ⟨hempty, -⟩ | ⟨request', hawait', -, -, -, -, hnew⟩ := (h.followed hon).inFlight
    · rw [hawait] at hempty
      cases hempty
    · rw [hawait] at hawait'
      cases hawait'
      have hlt := hnew hnone w.store.snapshot List.mem_cons_self
      exact ⟨hlt, (h.soundAwaiting request hr).valid, update_accepted (h.soundAwaiting request hr) hlt⟩
  restores hon := by
    rw [h.enabled] at hon
    obtain ⟨m, hrestore, hm⟩ := restoreDesktopWorkspace_of_sound hon (initializeModel_isCapsule hon) h.soundStore
    exact ⟨m, hrestore, hm.snapshot⟩
  current hon hmax hrevision :=
    (h.followed hon).shown hmax w.store.snapshot (List.mem_append_left _ List.mem_cons_self) hrevision

/-- **Main result.** In every run within the condition the sessions stay distinct, and what Rust has stored restores
them. -/
theorem workspace_safe (launch : Launch) (events : List Event)
    (horder : AllInOrder launch (World.start launch) events) : Safe launch (run launch events) :=
  ((inv_start launch).run horder).safe

/-- A desktop with a terminal, and no Agents. -/
def Launch.terminals : Launch := ⟨true, false, "", [], [], [], true⟩

/-- Tabs are opened and closed; an answer is lost, the file is replaced without an answer, and the client restarts with
a request on the way, before the desktop does. -/
def rearranged : List Event :=
  [.chooseTerminal, .agentComposerChanged "ls", .handle 0 .written, .chooseAgent .codex, .respond 0 false,
    .handle 0 .renamed, .closeSession 2, .respond 0 true, .handle 0 .written, .selectSession 1, .respond 0 true,
    .restartClient, .restartDesktop]

theorem workspace_safe_rearranged : Safe Launch.terminals (run Launch.terminals rearranged) :=
  workspace_safe Launch.terminals rearranged (by decide +kernel)

/-! ## Tabs without end -/

/-- A tab is opened and closed in each step. -/
def churn : Nat → List Event
  | 0 => []
  | n + 1 => churn n ++ [.chooseTerminal, .closeActiveSession]

/-- The first tab is the only one. -/
structure Alone (next : UInt8) (m : Model) : Prop where
  sessions : m.sessionSlots = [{ id := 1 }]
  active : m.activeSessionId = 1
  next : m.nextSessionId = next

theorem mark_tabs (m : Model) : m.markDesktopWorkspaceChanged.1.sessionSlots = m.sessionSlots ∧
    m.markDesktopWorkspaceChanged.1.activeSessionId = m.activeSessionId ∧
    m.markDesktopWorkspaceChanged.1.nextSessionId = m.nextSessionId := by
  unfold Model.markDesktopWorkspaceChanged Model.requestDesktopWorkspacePersist
  split
  · exact ⟨rfl, rfl, rfl⟩
  · split
    · exact ⟨rfl, rfl, rfl⟩
    · split <;> exact ⟨rfl, rfl, rfl⟩

theorem chooseTerminal_tabs {m : Model} (h : m.sessionSlots.length < maxSessions) :
    m.chooseTerminal.1.sessionSlots =
        m.sessionSlots ++ [{ id := m.nextSessionId, agentProvider := m.selectedAgentProvider }] ∧
      m.chooseTerminal.1.activeSessionId = m.nextSessionId ∧
      m.chooseTerminal.1.nextSessionId = following m.nextSessionId := by
  unfold Model.chooseTerminal Model.appendSession
  rw [if_neg (Nat.not_le.mpr h)]
  exact mark_tabs (m.saveActiveAgentComposer.pushSession
    { id := m.nextSessionId, mode := .terminal, agentProvider := m.selectedAgentProvider }).loadActiveAgentComposer

theorem Alone.churn {next : UInt8} (h : Alone next m) (hne : next ≠ 1) :
    Alone (following next) (m.chooseTerminal.1.closeSession m.chooseTerminal.1.activeSessionId).1 := by
  obtain ⟨hsessions, hactive, hnext⟩ := chooseTerminal_tabs (m := m) (by rw [h.sessions]; decide)
  rw [h.sessions, List.singleton_append] at hsessions
  rw [h.next] at hsessions hactive hnext
  generalize m.chooseTerminal.1 = opened at hsessions hactive hnext
  have hfind : opened.saveActiveAgentComposer.sessionSlots.findIdx? (fun session => session.id = next) = some 1 := by
    show opened.sessionSlots.findIdx? _ = _
    rw [hsessions, List.findIdx?_cons, if_neg (by simpa using hne.symm), List.findIdx?_singleton, if_pos (by simp)]
    rfl
  have hlength : opened.saveActiveAgentComposer.sessionSlots.length = 2 := congrArg List.length hsessions
  unfold Model.closeSession
  rw [hactive]
  dsimp only
  rw [hfind]
  dsimp only
  rw [if_neg (by rw [hlength]; decide)]
  rw [if_pos (show opened.saveActiveAgentComposer.activeSessionId = next from hactive)]
  have hneighbour : opened.saveActiveAgentComposer.neighbour 1 = 1 := by
    unfold Model.neighbour
    rw [if_neg (by rw [hlength]; decide)]
    show ((opened.sessionSlots[0]?).map Session.id).getD 0 = 1
    rw [hsessions]
    rfl
  rw [hneighbour]
  obtain ⟨hs, ha, hn⟩ := mark_tabs (Model.eraseSession { opened.saveActiveAgentComposer with activeSessionId := 1 }
    1).loadActiveAgentComposer
  refine ⟨hs.trans ?_, ha, hn.trans hnext⟩
  show opened.sessionSlots.eraseIdx 1 = _
  rw [hsessions]
  rfl

theorem following_ofNat {n : Nat} (h : n + 1 < 256) : following (UInt8.ofNat n) = UInt8.ofNat (n + 1) := by
  have hadd : UInt8.ofNat n + 1 = UInt8.ofNat (n + 1) := (UInt8.ofNat_add n 1).symm
  have hne : UInt8.ofNat (n + 1) ≠ 0 := by
    intro h0
    have := congrArg UInt8.toNat h0
    rw [UInt8.toNat_ofNat_of_lt' h] at this
    cases this
  unfold following
  rw [hadd, if_neg hne]

theorem alone_churn {n : Nat} (h : n ≤ 253) : Alone (UInt8.ofNat (n + 2)) (run Launch.terminals (churn n)).model := by
  induction n with
  | zero => exact ⟨by decide +kernel, by decide +kernel, by decide +kernel⟩
  | succ n ih =>
      have hne : UInt8.ofNat (n + 2) ≠ 1 := by
        intro hone
        have hnat := congrArg UInt8.toNat hone
        rw [UInt8.toNat_ofNat_of_lt' (show n + 2 < 256 by omega)] at hnat
        cases hnat
      have hstep := (ih (Nat.le_of_succ_le h)).churn hne
      rw [following_ofNat (show n + 2 + 1 < 256 by omega)] at hstep
      unfold run churn
      rw [List.foldl_append]
      exact hstep

/-- The ids are used up by tabs that are closed again, while the first tab stays open: a later tab gets its id. -/
theorem sessions_repeat : ¬ ∀ launch events, Safe launch (run launch events) := by
  intro h
  have hsafe := (h Launch.terminals (churn 253 ++ [.chooseTerminal, .chooseTerminal])).distinct
  have halone := alone_churn (le_refl 253)
  unfold run at hsafe halone
  rw [List.foldl_append, List.foldl_cons, List.foldl_cons, List.foldl_nil] at hsafe
  generalize List.foldl (step Launch.terminals) (World.start Launch.terminals) (churn 253) = w at halone hsafe
  change w.model.chooseTerminal.1.chooseTerminal.1.sessionIds.Nodup at hsafe
  generalize w.model = m at halone hsafe
  obtain ⟨hsessions, -, hnext⟩ := chooseTerminal_tabs (m := m) (by rw [halone.sessions]; decide)
  rw [halone.sessions, halone.next] at hsessions
  rw [halone.next] at hnext
  obtain ⟨hrepeated, -⟩ := chooseTerminal_tabs (m := m.chooseTerminal.1) (by
    rw [hsessions]
    show 2 < 8
    decide)
  rw [hsessions, hnext] at hrepeated
  rw [Model.sessionIds, hrepeated] at hsafe
  change [1, UInt8.ofNat 255, following (UInt8.ofNat 255)].Nodup at hsafe
  exact absurd hsafe (by decide)

end HyperTerm.Desktop
