import HyperTerm.Desktop.Tabs
import HyperTerm.Lib.Text

/-!
# The workspace that Rust keeps

What Rust checks of a snapshot of the desktop's workspace before it stores it, and what the client checks before it
restores it, are the same.

* `validateDesktopWorkspace`, `Store.update`, `Store.updateDesktopWorkspace` : the endpoint of the terminal gateway;
* `Sound` : a snapshot that passes the checks, and whose text fits both sides' limits;
* `sound_desktopWorkspace` : the snapshots of a well-formed client are;
* `restoreDesktopWorkspace_of_sound` : such a snapshot is restored as it is.
-/

namespace HyperTerm.Desktop
open HyperTerm.Lib

/-! ## The endpoint -/

namespace DesktopWorkspaceWire

/-- `DesktopWorkspaceSnapshot::default`. -/
def default : DesktopWorkspaceWire where
  version := 1
  revision := 0
  activeSessionId := 1
  nextSessionId := 2
  selectedAgentProvider := "codex"
  sessions := [⟨1, "terminal", none⟩]

def sessionIds (snapshot : DesktopWorkspaceWire) : List UInt8 := snapshot.sessions.map DesktopSessionWire.id

end DesktopWorkspaceWire

def validAgentProvider (provider : String) : Bool :=
  provider ∈ ["codex", "codex-acp", "claude-acp", "copilot-acp"]

def maxDesktopSessions : Nat := 8

/-- The arms of the `match` on a session's mode and provider. -/
def validMode (session : DesktopSessionWire) : Bool :=
  if session.mode = "terminal" then session.agentProvider = none
  else session.mode = "agent" && session.agentProvider.any validAgentProvider

/-- The loop over the sessions, with the ids inserted before. -/
def validSessions : List UInt8 → List DesktopSessionWire → Bool
  | _, [] => true
  | sessionIds, session :: sessions =>
      session.id ≠ 0 && session.id ∉ sessionIds && validMode session && validSessions (session.id :: sessionIds) sessions

def validateDesktopWorkspace (snapshot : DesktopWorkspaceWire) : Bool :=
  snapshot.version = 1 && snapshot.sessions ≠ [] && snapshot.sessions.length ≤ maxDesktopSessions &&
    snapshot.activeSessionId ≠ 0 && snapshot.nextSessionId ≠ 0 && validAgentProvider snapshot.selectedAgentProvider &&
    validSessions [] snapshot.sessions && snapshot.activeSessionId ∈ snapshot.sessionIds &&
    snapshot.nextSessionId ∉ snapshot.sessionIds

inductive DesktopWorkspaceUpdateError where
  | invalid
  | stale
  | conflict
  | unavailable
  deriving DecidableEq, Repr

/-- How the replacement of the file ends: an error may come before its rename, or after it. -/
inductive Replaced where
  | written
  | unchanged
  | renamed
  deriving DecidableEq, Repr

/-- The snapshot in memory, and the one in the file where there is a durable path. -/
structure Store where
  snapshot : DesktopWorkspaceWire := DesktopWorkspaceWire.default
  file : Option DesktopWorkspaceWire

namespace Store

def update (store : Store) (next : DesktopWorkspaceWire) (replaced : Replaced) :
    Store × Except DesktopWorkspaceUpdateError Unit :=
  if validateDesktopWorkspace next = false then (store, .error .invalid)
  else if next.revision < store.snapshot.revision then (store, .error .stale)
  else if next.revision = store.snapshot.revision ∧ next ≠ store.snapshot then (store, .error .conflict)
  else if next = store.snapshot then (store, .ok ())
  else
    match store.file with
    | none => ({ store with snapshot := next }, .ok ())
    | some _ =>
        -- the file ends with a newline
        if next.json.utf8ByteSize + 1 > maxDesktopWorkspaceBytes then (store, .error .unavailable)
        else
          match replaced with
          | .unchanged => (store, .error .unavailable)
          | .renamed => ({ store with file := some next }, .error .unavailable)
          | .written => ({ snapshot := next, file := some next }, .ok ())

/-- `update_desktop_workspace`, with the status of its response. -/
@[irreducible] def updateDesktopWorkspace (store : Store) (snapshot : DesktopWorkspaceWire) (replaced : Replaced) : Store × Nat :=
  if snapshot.json.utf8ByteSize > maxDesktopWorkspaceBytes then (store, 413)
  else
    match store.update snapshot replaced with
    | (store', .ok ()) => (store', 204)
    | (store', .error .invalid) => (store', 400)
    | (store', .error .stale) => (store', 409)
    | (store', .error .conflict) => (store', 409)
    | (store', .error .unavailable) => (store', 500)

/-- `DesktopWorkspaceStore::open`, on what an earlier run left. -/
def reopen (store : Store) : Store :=
  match store.file with
  | none => { snapshot := DesktopWorkspaceWire.default, file := none }
  | some snapshot =>
      if snapshot.json.utf8ByteSize + 1 > maxDesktopWorkspaceBytes ∨ validateDesktopWorkspace snapshot = false then
        { snapshot := DesktopWorkspaceWire.default, file := some DesktopWorkspaceWire.default }
      else { snapshot, file := some snapshot }

end Store

/-! ## What passes -/

theorem validSessions_iff {sessionIds : List UInt8} {sessions : List DesktopSessionWire} :
    validSessions sessionIds sessions = true ↔ (∀ session ∈ sessions, session.id ≠ 0 ∧ validMode session = true) ∧
      (sessions.map DesktopSessionWire.id).Nodup ∧ ∀ session ∈ sessions, session.id ∉ sessionIds := by
  induction sessions generalizing sessionIds with
  | nil => simp [validSessions]
  | cons session sessions ih =>
      simp only [validSessions, Bool.and_eq_true, decide_eq_true_eq, ih, List.map_cons, List.nodup_cons, List.mem_cons,
        forall_eq_or_imp, not_or, List.mem_map]
      constructor
      · rintro ⟨⟨⟨hne, hnot⟩, hmode⟩, hall, hnodup, hseen⟩
        exact ⟨⟨⟨hne, hmode⟩, hall⟩, ⟨fun ⟨other, hmem, heq⟩ => (hseen other hmem).1 heq, hnodup⟩, hnot,
          fun other hmem => (hseen other hmem).2⟩
      · rintro ⟨⟨⟨hne, hmode⟩, hall⟩, ⟨hfresh, hnodup⟩, hnot, hseen⟩
        exact ⟨⟨⟨hne, hnot⟩, hmode⟩, hall, hnodup, fun other hmem => ⟨fun heq => hfresh ⟨other, hmem, heq⟩,
          hseen other hmem⟩⟩

/-- A snapshot that both sides take. -/
structure Sound (snapshot : DesktopWorkspaceWire) : Prop where
  valid : validateDesktopWorkspace snapshot = true
  short : snapshot.json.utf8ByteSize + 1 ≤ maxDesktopWorkspaceBytes
  revision : snapshot.revision ≤ maxRevision

theorem sound_default : Sound DesktopWorkspaceWire.default := ⟨by decide, by decide +kernel, by decide⟩

@[simp] theorem validAgentProvider_id (provider : AgentProvider) : validAgentProvider provider.id = true := by
  cases provider <;> rfl

theorem validMode_wire (session : Session) : validMode session.wire = true := by
  unfold validMode Session.wire
  by_cases h : session.mode = .agent
  · simp [h]
  · simp [h]

theorem sessionIds_desktopWorkspace (m : Model) : m.desktopWorkspace.sessionIds = m.sessionIds := by
  show (m.sessionSlots.map Session.wire).map DesktopSessionWire.id = m.sessionSlots.map Session.id
  rw [List.map_map]
  rfl

theorem valid_desktopWorkspace {m : Model} (h : WellFormed m) : validateDesktopWorkspace m.desktopWorkspace = true := by
  have hids := sessionIds_desktopWorkspace m
  have hne : m.sessionSlots ≠ [] := by
    intro hnil
    have := h.active
    rw [Model.sessionIds, hnil] at this
    cases this
  have hsessions : validSessions [] m.desktopWorkspace.sessions = true := by
    rw [validSessions_iff]
    refine ⟨fun session hmem => ?_, ?_, fun _ _ => List.not_mem_nil⟩
    · obtain ⟨open', hopen, rfl⟩ := List.mem_map.mp hmem
      exact ⟨fun h0 => h.nonzero (List.mem_map.mpr ⟨open', hopen, h0⟩), validMode_wire open'⟩
    · show m.desktopWorkspace.sessionIds.Nodup
      rw [hids]
      exact h.nodup
  unfold validateDesktopWorkspace
  simp only [hids, hsessions, Bool.and_eq_true, decide_eq_true_eq, and_true]
  refine ⟨⟨⟨⟨⟨⟨⟨rfl, ?_⟩, ?_⟩, ?_⟩, h.nextNonzero⟩, validAgentProvider_id _⟩, h.active⟩, h.next⟩
  · simpa [Model.desktopWorkspace] using hne
  · show (m.sessionSlots.map Session.wire).length ≤ maxSessions
    rw [List.length_map]
    exact h.limit
  · exact fun h0 => h.nonzero (h0 ▸ h.active)

/-! ## What an update does -/

/-- What may have become of the store in an update: a snapshot that is taken is newer than the one it replaces. -/
structure Updated (store : Store) (next : DesktopWorkspaceWire) (store' : Store) : Prop where
  snapshot : store'.snapshot = store.snapshot ∨ store'.snapshot = next ∧ store.snapshot.revision < next.revision
  file : store'.file = store.file ∨ store'.file = some next

theorem updated_update (store : Store) (next : DesktopWorkspaceWire) (replaced : Replaced) :
    Updated store next (store.update next replaced).1 := by
  have hsame : Updated store next store := ⟨Or.inl rfl, Or.inl rfl⟩
  unfold Store.update
  split
  · exact hsame
  · split
    · exact hsame
    · next hstale =>
        split
        · exact hsame
        · next hconflict =>
            split
            · exact hsame
            · next hother =>
                have hlt : store.snapshot.revision < next.revision :=
                  lt_of_le_of_ne (Nat.le_of_not_lt hstale) fun he => hconflict ⟨he.symm, hother⟩
                split
                · exact ⟨Or.inr ⟨rfl, hlt⟩, Or.inl rfl⟩
                · split
                  · exact hsame
                  · cases replaced with
                    | written => exact ⟨Or.inr ⟨rfl, hlt⟩, Or.inr rfl⟩
                    | unchanged => exact hsame
                    | renamed => exact ⟨Or.inl rfl, Or.inr rfl⟩

theorem updated_updateDesktopWorkspace (store : Store) (next : DesktopWorkspaceWire) (replaced : Replaced) :
    Updated store next (store.updateDesktopWorkspace next replaced).1 := by
  have hupdate := updated_update store next replaced
  unfold Store.updateDesktopWorkspace
  split
  · exact ⟨Or.inl rfl, Or.inl rfl⟩
  · split <;> next hresult => rw [hresult] at hupdate; exact hupdate

theorem update_accepted {store : Store} {next : DesktopWorkspaceWire} (h : Sound next)
    (hlt : store.snapshot.revision < next.revision) : (store.updateDesktopWorkspace next .written).2 = 204 := by
  have hshort := h.short
  have hne : next ≠ store.snapshot := fun he => absurd (he ▸ hlt) (lt_irrefl _)
  have hok : (store.update next .written).2 = .ok () := by
    unfold Store.update
    rw [if_neg (by rw [h.valid]; decide), if_neg (Nat.not_lt.mpr hlt.le), if_neg fun he => absurd he.1 hlt.ne', if_neg hne]
    cases store.file with
    | none => rfl
    | some _ =>
        dsimp only
        rw [if_neg (Nat.not_lt.mpr hshort)]
  unfold Store.updateDesktopWorkspace
  rw [if_neg (by omega)]
  generalize store.update next .written = result at hok ⊢
  obtain ⟨store', answer⟩ := result
  subst hok
  rfl

/-! ## The size of the text -/

theorem size_repr_uint8 (n : UInt8) : n.toNat.repr.utf8ByteSize ≤ 3 := by
  rw [utf8ByteSize_repr]
  exact (Nat.length_repr_le_iff (by decide)).mpr (n.toNat_lt.trans (by decide))

theorem size_id (provider : AgentProvider) : provider.id.utf8ByteSize ≤ 11 := by cases provider <;> decide

theorem size_quoted (text : String) : (quoted text).utf8ByteSize = text.utf8ByteSize + 2 := by
  have hquote : "\"".utf8ByteSize = 1 := rfl
  unfold quoted
  rw [String.utf8ByteSize_append, String.utf8ByteSize_append, hquote]
  omega

theorem size_json_session (session : Session) : session.wire.json.utf8ByteSize ≤ 60 := by
  have hid : session.wire.id.toNat.repr.utf8ByteSize ≤ 3 := size_repr_uint8 session.wire.id
  have hmode : session.wire.mode.utf8ByteSize ≤ 8 := by
    unfold Session.wire
    dsimp only
    split <;> decide
  have hprovider : (session.wire.agentProvider.elim "null" quoted).utf8ByteSize ≤ 13 := by
    unfold Session.wire
    dsimp only
    split
    · show (quoted session.agentProvider.id).utf8ByteSize ≤ 13
      have := size_id session.agentProvider
      rw [size_quoted]
      omega
    · decide
  have h1 : "\x7b\"id\":".utf8ByteSize = 6 := rfl
  have h2 : ",\"mode\":".utf8ByteSize = 8 := rfl
  have h3 : ",\"agent_provider\":".utf8ByteSize = 18 := rfl
  have h4 : "\x7d".utf8ByteSize = 1 := rfl
  unfold DesktopSessionWire.json
  simp only [String.utf8ByteSize_append, size_quoted]
  omega

theorem size_commaSeparated {texts : List String} {k : Nat} (h : ∀ text ∈ texts, text.utf8ByteSize ≤ k) :
    (commaSeparated texts).utf8ByteSize ≤ texts.length * (k + 1) := by
  induction texts with
  | nil => exact Nat.zero_le _
  | cons text texts ih =>
      have htext : text.utf8ByteSize ≤ k := h text List.mem_cons_self
      have hrest := ih fun other hmem => h other (List.mem_cons_of_mem text hmem)
      have hcomma : ",".utf8ByteSize = 1 := rfl
      cases texts with
      | nil =>
          show text.utf8ByteSize ≤ 1 * (k + 1)
          omega
      | cons next texts =>
          show (text ++ "," ++ commaSeparated (next :: texts)).utf8ByteSize ≤ ((next :: texts).length + 1) * (k + 1)
          rw [String.utf8ByteSize_append, String.utf8ByteSize_append, hcomma, Nat.succ_mul]
          omega

/-- The snapshot of a client is one that both sides take. -/
theorem sound_desktopWorkspace {m : Model} (h : WellFormed m) : Sound m.desktopWorkspace := by
  refine ⟨valid_desktopWorkspace h, ?_, h.revision⟩
  have hrevision : m.desktopWorkspaceRevision.repr.utf8ByteSize ≤ 20 := by
    rw [utf8ByteSize_repr]
    exact (Nat.length_repr_le_iff (by decide)).mpr (lt_of_le_of_lt h.revision (by decide))
  have hactive := size_repr_uint8 m.activeSessionId
  have hnext := size_repr_uint8 m.nextSessionId
  have hselected := size_id m.selectedAgentProvider
  have hsessions : (commaSeparated (m.desktopWorkspace.sessions.map DesktopSessionWire.json)).utf8ByteSize ≤ 8 * 61 := by
    have hlen : (m.desktopWorkspace.sessions.map DesktopSessionWire.json).length ≤ 8 := by
      show ((m.sessionSlots.map Session.wire).map DesktopSessionWire.json).length ≤ 8
      rw [List.length_map, List.length_map]
      exact h.limit
    refine (size_commaSeparated (k := 60) fun text hmem => ?_).trans (Nat.mul_le_mul_right 61 hlen)
    obtain ⟨wire, hwire, rfl⟩ := List.mem_map.mp hmem
    obtain ⟨session, -, rfl⟩ := List.mem_map.mp hwire
    exact size_json_session session
  have h0 : (1 : Nat).repr.utf8ByteSize = 1 := rfl
  have h1 : "\x7b\"version\":".utf8ByteSize = 11 := rfl
  have h2 : ",\"revision\":".utf8ByteSize = 12 := rfl
  have h3 : ",\"active_session_id\":".utf8ByteSize = 21 := rfl
  have h4 : ",\"next_session_id\":".utf8ByteSize = 19 := rfl
  have h5 : ",\"selected_agent_provider\":".utf8ByteSize = 27 := rfl
  have h6 : ",\"sessions\":[".utf8ByteSize = 13 := rfl
  have h7 : "]\x7d".utf8ByteSize = 2 := rfl
  unfold DesktopWorkspaceWire.json
  simp only [String.utf8ByteSize_append, size_quoted]
  show _ + (1 : Nat).repr.utf8ByteSize + _ + m.desktopWorkspaceRevision.repr.utf8ByteSize + _ + m.activeSessionId.toNat.repr.utf8ByteSize +
    _ + m.nextSessionId.toNat.repr.utf8ByteSize + _ + (m.selectedAgentProvider.id.utf8ByteSize + 2) + _ + _ + _ + 1 ≤ 4 * 1024
  omega

/-! ## Restoring -/

theorem exists_provider {text : String} (h : validAgentProvider text = true) :
    ∃ provider : AgentProvider, agentProviderFromId text = some provider ∧ provider.id = text := by
  unfold validAgentProvider at h
  simp only [List.mem_cons, List.not_mem_nil, or_false, decide_eq_true_eq] at h
  obtain rfl | rfl | rfl | rfl := h
  · exact ⟨.codex, rfl, rfl⟩
  · exact ⟨.codexAcp, rfl, rfl⟩
  · exact ⟨.claudeAcp, rfl, rfl⟩
  · exact ⟨.copilotAcp, rfl, rfl⟩

theorem restoreSession_of_valid (m : Model) {wire : DesktopSessionWire} (h : validMode wire = true) :
    ∃ session, m.restoreSession wire = some session ∧ session.wire = wire := by
  obtain ⟨sessionId, mode, agentProvider⟩ := wire
  unfold validMode at h
  unfold Model.restoreSession
  dsimp only at h ⊢
  split at h
  · next hmode =>
      have hnone : agentProvider = none := by simpa using h
      rw [if_pos hmode, if_pos hnone]
      refine ⟨_, rfl, ?_⟩
      rw [hnone, hmode]
      rfl
  · next hmode =>
      rw [Bool.and_eq_true, decide_eq_true_eq] at h
      rw [if_neg hmode, if_pos h.1]
      cases hprovider : agentProvider with
      | none =>
          rw [hprovider] at h
          cases h.2
      | some text =>
          rw [hprovider] at h
          obtain ⟨provider, hfrom, hid⟩ := exists_provider h.2
          simp only [Option.bind_eq_bind, Option.bind_some, hfrom]
          refine ⟨_, rfl, ?_⟩
          rw [h.1, ← hid]
          rfl

theorem restoreSessions_of_valid (m : Model) {sessionIds : List UInt8} {wires : List DesktopSessionWire}
    (h : validSessions sessionIds wires = true) :
    ∃ sessions, m.restoreSessions sessionIds wires = some sessions ∧ sessions.map Session.wire = wires := by
  induction wires generalizing sessionIds with
  | nil => exact ⟨[], rfl, rfl⟩
  | cons wire wires ih =>
      unfold validSessions at h
      simp only [Bool.and_eq_true, decide_eq_true_eq] at h
      obtain ⟨⟨⟨hne, hnot⟩, hmode⟩, hrest⟩ := h
      obtain ⟨session, hsession, hwire⟩ := restoreSession_of_valid m hmode
      obtain ⟨sessions, hsessions, hwires⟩ := ih hrest
      refine ⟨session :: sessions, ?_, ?_⟩
      · unfold Model.restoreSessions
        rw [if_neg (not_or.mpr ⟨hne, hnot⟩), hsession]
        show (m.restoreSessions (wire.id :: sessionIds) wires).bind _ = _
        rw [hsessions]
        rfl
      · rw [List.map_cons, hwire, hwires]

/-- What a client is once it has restored a snapshot. -/
structure Restored (snapshot : DesktopWorkspaceWire) (m : Model) : Prop where
  snapshot : m.desktopWorkspace = snapshot
  wellFormed : WellFormed m
  keeps : Keeps (fun _ => Kept.blank) m
  enabled : m.desktopWorkspaceEnabled = true
  inFlight : m.desktopWorkspaceInFlightRevision = 0

theorem restoreDesktopWorkspace_of_sound {fresh : Model} (henabled : fresh.desktopWorkspaceEnabled = true)
    (hcapsule : fresh.isCapsule = false) {snapshot : DesktopWorkspaceWire} (h : Sound snapshot) :
    ∃ m, fresh.restoreDesktopWorkspace snapshot.json.utf8ByteSize (some snapshot) = some m ∧ Restored snapshot m := by
  have hvalid := h.valid
  unfold validateDesktopWorkspace at hvalid
  simp only [Bool.and_eq_true, decide_eq_true_eq] at hvalid
  obtain ⟨⟨⟨⟨⟨⟨⟨⟨hversion, hne⟩, hlimit⟩, hactive0⟩, hnext0⟩, hselected⟩, hsessions⟩, hactive⟩, hnext⟩ := hvalid
  obtain ⟨provider, hfrom, hid⟩ := exists_provider hselected
  obtain ⟨sessions, hrestore, hwires⟩ := restoreSessions_of_valid fresh hsessions
  have hlength : snapshot.json.utf8ByteSize ≠ 0 := by
    have h1 : "\x7b\"version\":".utf8ByteSize = 11 := rfl
    unfold DesktopWorkspaceWire.json
    simp only [String.utf8ByteSize_append]
    omega
  have hids : sessions.map Session.id = snapshot.sessionIds := by
    have := congrArg (List.map DesktopSessionWire.id) hwires
    rw [List.map_map] at this
    exact this
  obtain ⟨hall, hnodup, -⟩ := validSessions_iff.mp hsessions
  have hfit : ¬(fresh.desktopWorkspaceEnabled = false ∨ snapshot.json.utf8ByteSize = 0 ∨
      snapshot.json.utf8ByteSize > maxDesktopWorkspaceBytes ∨ fresh.isCapsule = true) := by
    have := h.short
    simp only [henabled, hcapsule, hlength, Bool.true_eq_false, Bool.false_eq_true, false_or, or_false]
    omega
  have hhead : ¬(snapshot.version ≠ 1 ∨ snapshot.sessions = [] ∨ snapshot.sessions.length > maxSessions ∨
      snapshot.activeSessionId = 0 ∨ snapshot.nextSessionId = 0) := by
    simp only [hversion, hne, hactive0, hnext0, ne_eq, not_true_eq_false, false_or, or_false, not_lt]
    exact hlimit
  have htail : ¬(snapshot.activeSessionId ∉ snapshot.sessions.map DesktopSessionWire.id ∨
      snapshot.nextSessionId ∈ snapshot.sessions.map DesktopSessionWire.id) :=
    not_or.mpr ⟨not_not.mpr hactive, hnext⟩
  refine ⟨{ fresh with
    sessionSlots := sessions
    agentComposerBuffer := ""
    agentComposerDrafts := sessions.map fun _ => ""
    agentPendingPrompts := sessions.map fun _ => ""
    activeSessionId := snapshot.activeSessionId
    nextSessionId := snapshot.nextSessionId
    selectedAgentProvider := provider
    desktopWorkspaceRevision := snapshot.revision
    desktopWorkspacePersistedRevision := snapshot.revision
    desktopWorkspaceInFlightRevision := 0 }, ?_, ?_⟩
  · unfold Model.restoreDesktopWorkspace
    rw [if_neg hfit]
    show (if _ then _ else _) = _
    rw [if_neg hhead]
    simp only [hfrom, hrestore, Option.bind_eq_bind, Option.bind_some]
    rw [if_neg htail]
  · constructor
    · unfold Model.desktopWorkspace
      simp only [hwires, hid]
      rw [← hversion]
    · constructor
      · exact List.length_map _
      · exact List.length_map _
      · have hlen := congrArg List.length hwires
        rw [List.length_map] at hlen
        exact hlen ▸ hlimit
      · show (sessions.map Session.id).Nodup
        rw [hids]
        exact hnodup
      · show 0 ∉ sessions.map Session.id
        rw [hids]
        intro h0
        obtain ⟨wire, hmem, hzero⟩ := List.mem_map.mp h0
        exact (hall wire hmem).1 hzero
      · show snapshot.activeSessionId ∈ sessions.map Session.id
        rw [hids]
        exact hactive
      · exact hnext0
      · show snapshot.nextSessionId ∉ sessions.map Session.id
        rw [hids]
        exact hnext
      · exact h.revision
    · intro i sessionId hi
      have hblank : (sessions.map fun _ => "")[i]? = some "" := by
        change (sessions.map Session.id)[i]? = some sessionId at hi
        rw [List.getElem?_map, Option.map_eq_some_iff] at hi ⊢
        obtain ⟨session, hsession, -⟩ := hi
        exact ⟨session, hsession, rfl⟩
      refine ⟨?_, hblank⟩
      show ((sessions.map fun _ => "").set _ "")[i]? = some ""
      rw [List.getElem?_set]
      split
      · next he =>
          rw [if_pos]
          rw [he]
          exact (List.getElem?_eq_some_iff.mp hblank).1
      · exact hblank
    · exact henabled
    · rfl

end HyperTerm.Desktop
