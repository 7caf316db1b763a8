import HyperTerm.Daemon.WebGateway
import HyperTerm.Protocol.Wire

/-!
# Input leases and the connections they are granted through

A connection to the control socket names its client in `Hello`. Its requests act for that client, and when it closes the
daemon releases the leases of that client. The web gateway calls the same methods without a connection.

* `LeaseWorld.step` : a request, a connection that opens or closes, a terminal that opens, exits or is finalized;
* `Inv` : the lease of a terminal is the one last granted for it, and generations count the leases;
* `inputLeases_history` : what holds of every order of these events.

The sessions of terminals are never forgotten, so that looking one up before the lock of the leases is taken is the same
as looking it up under the lock.
-/

namespace HyperTerm.Daemon.InputLeases
open HyperTerm.Protocol HyperTerm.Core HyperTerm.Lib

inductive ConnectionScope where
  | desktopController
  | agentMcpConnector
  deriving DecidableEq

structure Connection where
  clientId : ClientId
  scope : ConnectionScope
  live : Bool
  deriving DecidableEq

/-- A lease that was answered to a request, and the connection of the request if it came through one. -/
structure Granted where
  connection : Option Nat
  terminalId : TerminalId
  lease : InputLease

/-- The daemon's terminals, the connections that said `Hello`, and the granted leases, the last one first. -/
structure LeaseWorld where
  gateway : GatewayState
  connections : List Connection
  granted : List Granted

inductive TerminalCall where
  /-- `clientId` is the one in the request, `leaseId` what `InputLeaseId::new` gives. -/
  | acquireInputLease (terminalId : TerminalId) (clientId : ClientId) (leaseId : InputLeaseId)
  | releaseInputLease (terminalId : TerminalId) (leaseId : InputLeaseId)
  | writeTerminalInput (terminalId : TerminalId) (leaseId : InputLeaseId) (sequence : Nat) (bytes : List UInt8)
      (written : Except String Unit)

inductive LeaseEvent where
  /-- `active` is whether the capability of the socket is. -/
  | hello (clientId : ClientId) (version : Nat) (scope : ConnectionScope) (active : Bool)
  | request (connection : Nat) (call : TerminalCall)
  | closed (connection : Nat)
  /-- A method that the web gateway calls. -/
  | called (clientId : ClientId) (call : TerminalCall)
  | opened (terminalId : TerminalId) (size : TerminalSize) (spawned : ShellSpawn)
  | exited (terminalId : TerminalId) (exit : TerminalExit)
  | finalized (terminalId : TerminalId)

/-- `release_client`. -/
def releaseClient (s : GatewayState) (clientId : ClientId) : GatewayState :=
  { s with leases := fun terminalId => (s.leases terminalId).filter fun lease => lease.clientId ≠ clientId }

namespace LeaseWorld

def acquire (w : LeaseWorld) (connection : Option Nat) (terminalId : TerminalId) (clientId : ClientId)
    (leaseId : InputLeaseId) : LeaseWorld :=
  let acquired := w.gateway.acquireInputLease terminalId clientId leaseId
  match acquired.2 with
  | .error _ => { w with gateway := acquired.1 }
  | .ok lease =>
      { w with
        gateway := acquired.1
        granted := ⟨connection, terminalId, ⟨lease.1, clientId, lease.2⟩⟩ :: w.granted }

/-- A call for a client; a request for a lease has to name that client. -/
def perform (w : LeaseWorld) (connection : Option Nat) (clientId : ClientId) : TerminalCall → LeaseWorld
  | .acquireInputLease terminalId named leaseId =>
      if named ≠ clientId then w else w.acquire connection terminalId named leaseId
  | .releaseInputLease terminalId leaseId =>
      { w with gateway := (w.gateway.releaseInputLease terminalId leaseId clientId).1 }
  | .writeTerminalInput terminalId leaseId sequence bytes written =>
      { w with gateway := (w.gateway.writeTerminalInput clientId terminalId leaseId sequence bytes written).1 }

/-- An agent's connection is denied all of these requests. -/
def request (w : LeaseWorld) (connection : Nat) (call : TerminalCall) : LeaseWorld :=
  match w.connections[connection]? with
  | some c => if c.live ∧ c.scope = .desktopController then w.perform (some connection) c.clientId call else w
  | none => w

/-- `ClientLeaseCleanup`. -/
def close (w : LeaseWorld) (connection : Nat) : LeaseWorld :=
  match w.connections[connection]? with
  | some c =>
      if c.live then
        { w with
          gateway := releaseClient w.gateway c.clientId
          connections := w.connections.set connection { c with live := false } }
      else w
  | none => w

def step (w : LeaseWorld) : LeaseEvent → LeaseWorld
  | .hello clientId version scope active =>
      if version = protocolVersion ∧ active then { w with connections := w.connections ++ [⟨clientId, scope, true⟩] }
      else w
  | .request connection call => w.request connection call
  | .closed connection => w.close connection
  | .called clientId call => w.perform none clientId call
  | .opened terminalId size spawned => { w with gateway := (w.gateway.openUserShell terminalId size spawned).1 }
  | .exited terminalId exit => { w with gateway := w.gateway.exited terminalId exit }
  | .finalized terminalId => { w with gateway := w.gateway.finalizeTerminal terminalId }

def start : LeaseWorld := ⟨.start, [], []⟩

def run (events : List LeaseEvent) : LeaseWorld := events.foldl step start

end LeaseWorld

/-! ## What a step does to the leases -/

variable {w w' : LeaseWorld} {terminalId : TerminalId} {clientId : ClientId} {leaseId : InputLeaseId} {lease : InputLease}

/-- The last lease that was granted for a terminal. -/
def lastGranted (granted : List Granted) (terminalId : TerminalId) : Option InputLease :=
  (granted.find? fun g => g.terminalId = terminalId).map Granted.lease

/-- The client holds the input of the terminal with this lease. -/
def Holds (s : GatewayState) (terminalId : TerminalId) (clientId : ClientId) (leaseId : InputLeaseId) : Prop :=
  ∃ lease, s.leases terminalId = some lease ∧ lease.leaseId = leaseId ∧ lease.clientId = clientId

/-- Without the lease the PTY is not asked, whatever it would answer. -/
theorem writeTerminalInput_of_not_holds {s : GatewayState} (h : ¬Holds s terminalId clientId leaseId) (sequence : Nat)
    (bytes : List UInt8) : ∃ error, ∀ written,
      s.writeTerminalInput clientId terminalId leaseId sequence bytes written = (s, .error error) := by
  unfold GatewayState.writeTerminalInput
  cases hlease : s.leases terminalId with
  | none => exact ⟨_, fun _ => rfl⟩
  | some lease =>
      have hmismatch : lease.leaseId ≠ leaseId ∨ lease.clientId ≠ clientId := by
        by_contra hnot
        rw [not_or, not_not, not_not] at hnot
        exact h ⟨lease, hlease, hnot.1, hnot.2⟩
      exact ⟨_, fun _ => if_pos hmismatch⟩

/-- Nothing is granted in the step, and no lease appears or changes. -/
structure Quiet (w w' : LeaseWorld) : Prop where
  leases : ∀ terminalId lease, w'.gateway.leases terminalId = some lease → w.gateway.leases terminalId = some lease
  generations : w'.gateway.leaseGenerations = w.gateway.leaseGenerations
  granted : w'.granted = w.granted

/-- A lease is granted: the one that stands, or a new one where none does. -/
structure Grants (w w' : LeaseWorld) (g : Granted) : Prop where
  granted : w'.granted = g :: w.granted
  others : ∀ terminalId, terminalId ≠ g.terminalId →
    w'.gateway.leases terminalId = w.gateway.leases terminalId ∧
      w'.gateway.leaseGenerations terminalId = w.gateway.leaseGenerations terminalId
  lease : w'.gateway.leases g.terminalId = some g.lease
  generation : w.gateway.leases g.terminalId = some g.lease ∧
      w'.gateway.leaseGenerations g.terminalId = w.gateway.leaseGenerations g.terminalId ∨
    g.lease.generation = w.gateway.leaseGenerations g.terminalId + 1 ∧
      w'.gateway.leaseGenerations g.terminalId = w.gateway.leaseGenerations g.terminalId + 1

theorem acquire_cases (w : LeaseWorld) (connection : Option Nat) (terminalId : TerminalId) (clientId : ClientId)
    (leaseId : InputLeaseId) : w.acquire connection terminalId clientId leaseId = w ∨
      ∃ lease, lease.clientId = clientId ∧
        Grants w (w.acquire connection terminalId clientId leaseId) ⟨connection, terminalId, lease⟩ ∧
          (w.acquire connection terminalId clientId leaseId).connections = w.connections := by
  unfold LeaseWorld.acquire GatewayState.acquireInputLease
  cases hsession : w.gateway.sessions terminalId with
  | none => exact .inl rfl
  | some session =>
      cases hlease : w.gateway.leases terminalId with
      | none =>
          refine .inr ⟨_, rfl, ⟨rfl, fun other hother => ?_, ?_, .inr ⟨rfl, ?_⟩⟩, rfl⟩
          · exact ⟨Function.update_of_ne hother _ _, Function.update_of_ne hother _ _⟩
          · exact Function.update_self _ _ _
          · exact Function.update_self _ _ _
      | some existing =>
          dsimp only
          by_cases hclient : existing.clientId = clientId
          · rw [if_pos hclient]
            subst hclient
            exact .inr ⟨_, rfl, ⟨rfl, fun _ _ => ⟨rfl, rfl⟩, hlease, .inl ⟨hlease, rfl⟩⟩, rfl⟩
          · rw [if_neg hclient]
            exact .inl rfl

theorem Quiet.refl (w : LeaseWorld) : Quiet w w := ⟨fun _ _ h => h, rfl, rfl⟩

theorem quiet_release (w : LeaseWorld) (terminalId : TerminalId) (leaseId : InputLeaseId) (clientId : ClientId) :
    Quiet w { w with gateway := (w.gateway.releaseInputLease terminalId leaseId clientId).1 } := by
  unfold GatewayState.releaseInputLease
  split
  · exact .refl w
  · split
    · exact .refl w
    · refine ⟨fun other lease hlease => ?_, rfl, rfl⟩
      by_cases hother : other = terminalId
      · subst hother
        exact nomatch (Function.update_self (f := w.gateway.leases) _ _).symm.trans hlease
      · exact (Function.update_of_ne hother _ _).symm.trans hlease

theorem quiet_writeTerminalInput (w : LeaseWorld) (clientId : ClientId) (terminalId : TerminalId)
    (leaseId : InputLeaseId) (sequence : Nat) (bytes : List UInt8) (written : Except String Unit) :
    Quiet w { w with
      gateway := (w.gateway.writeTerminalInput clientId terminalId leaseId sequence bytes written).1 } := by
  unfold GatewayState.writeTerminalInput
  split
  · exact .refl w
  · split
    · exact .refl w
    · split
      · exact .refl w
      · exact ⟨fun _ _ h => h, rfl, rfl⟩

theorem quiet_openUserShell (w : LeaseWorld) (terminalId : TerminalId) (size : TerminalSize) (spawned : ShellSpawn) :
    Quiet w { w with gateway := (w.gateway.openUserShell terminalId size spawned).1 } := by
  unfold GatewayState.openUserShell
  split <;> exact ⟨fun _ _ h => h, rfl, rfl⟩

theorem quiet_finalizeTerminal (w : LeaseWorld) (terminalId : TerminalId) :
    Quiet w { w with gateway := w.gateway.finalizeTerminal terminalId } := by
  refine ⟨fun other lease hlease => ?_, rfl, rfl⟩
  change Function.update w.gateway.leases terminalId none other = some lease at hlease
  by_cases hother : other = terminalId
  · subst hother
    rw [Function.update_self] at hlease
    exact nomatch hlease
  · rw [Function.update_of_ne hother] at hlease
    exact hlease

theorem quiet_close (w : LeaseWorld) (connection : Nat) : Quiet w (w.close connection) := by
  unfold LeaseWorld.close
  split
  · split
    · refine ⟨fun terminalId lease hlease => ?_, rfl, rfl⟩
      exact (Option.filter_eq_some_iff.mp hlease).1
    · exact .refl w
  · exact .refl w

/-- A call grants a lease to its client, or is quiet. -/
theorem perform_cases (w : LeaseWorld) (connection : Option Nat) (clientId : ClientId) (call : TerminalCall) :
    (w.perform connection clientId call).connections = w.connections ∧
      (Quiet w (w.perform connection clientId call) ∨
        ∃ g, Grants w (w.perform connection clientId call) g ∧ g.connection = connection ∧
          g.lease.clientId = clientId) := by
  cases call with
  | acquireInputLease terminalId named leaseId =>
      unfold LeaseWorld.perform
      dsimp only
      by_cases hnamed : named = clientId
      · rw [if_neg (not_not.mpr hnamed)]
        subst hnamed
        rcases acquire_cases w connection terminalId named leaseId with hsame | ⟨lease, hclient, hgrants, hsame⟩
        · rw [hsame]
          exact ⟨rfl, .inl (.refl w)⟩
        · exact ⟨hsame, .inr ⟨_, hgrants, rfl, hclient⟩⟩
      · rw [if_pos hnamed]
        exact ⟨rfl, .inl (.refl w)⟩
  | releaseInputLease terminalId leaseId => exact ⟨rfl, .inl (quiet_release w terminalId leaseId clientId)⟩
  | writeTerminalInput terminalId leaseId sequence bytes written =>
      exact ⟨rfl, .inl (quiet_writeTerminalInput w clientId terminalId leaseId sequence bytes written)⟩

/-- The connection said `Hello` for this client. -/
def LeaseWorld.Names (w : LeaseWorld) (connection : Nat) (clientId : ClientId) : Prop :=
  ∃ c, w.connections[connection]? = some c ∧ c.clientId = clientId

theorem step_cases (w : LeaseWorld) (event : LeaseEvent) : Quiet w (w.step event) ∨
    ∃ g, Grants w (w.step event) g ∧ ∀ connection, g.connection = some connection →
      w.Names connection g.lease.clientId := by
  cases event with
  | hello clientId version scope active =>
      left
      show Quiet w (if version = protocolVersion ∧ active then _ else w)
      split
      · exact ⟨fun _ _ h => h, rfl, rfl⟩
      · exact .refl w
  | request connection call =>
      unfold LeaseWorld.step LeaseWorld.request
      dsimp only
      split
      · rename_i c hconnection
        split
        · rcases (perform_cases w (some connection) c.clientId call).2 with hquiet | ⟨g, hgrants, hvia, hclient⟩
          · exact .inl hquiet
          · refine .inr ⟨g, hgrants, fun other hother => ?_⟩
            obtain rfl := Option.some.inj (hvia.symm.trans hother)
            exact ⟨c, hconnection, hclient.symm⟩
        · exact .inl (.refl w)
      · exact .inl (.refl w)
  | closed connection => exact .inl (quiet_close w connection)
  | called clientId call =>
      rcases (perform_cases w none clientId call).2 with hquiet | ⟨g, hgrants, hvia, -⟩
      · exact .inl hquiet
      · exact .inr ⟨g, hgrants, fun connection hconnection => nomatch hvia.symm.trans hconnection⟩
  | opened terminalId size spawned => exact .inl (quiet_openUserShell w terminalId size spawned)
  | exited terminalId exit => exact .inl ⟨fun _ _ h => h, rfl, rfl⟩
  | finalized terminalId => exact .inl (quiet_finalizeTerminal w terminalId)

/-- A connection keeps its client. -/
theorem names_step {connection : Nat} (h : w.Names connection clientId) (event : LeaseEvent) :
    (w.step event).Names connection clientId := by
  obtain ⟨c, hconnection, hclient⟩ := h
  have hsame (hconnections : (w.step event).connections = w.connections) : (w.step event).Names connection clientId :=
    ⟨c, by rw [hconnections]; exact hconnection, hclient⟩
  cases event with
  | hello other version scope active =>
      by_cases hhello : version = protocolVersion ∧ active
      · have hstep : w.step (.hello other version scope active) =
            { w with connections := w.connections ++ [⟨other, scope, true⟩] } := if_pos hhello
        have hlt := (List.getElem?_eq_some_iff.mp hconnection).1
        refine ⟨c, ?_, hclient⟩
        rw [hstep]
        exact (List.getElem?_append_left hlt).trans hconnection
      · exact hsame (congrArg LeaseWorld.connections (if_neg hhello))
  | request other call =>
      apply hsame
      unfold LeaseWorld.step LeaseWorld.request
      dsimp only
      split
      · split
        · exact (perform_cases w _ _ call).1
        · rfl
      · rfl
  | closed other =>
      unfold LeaseWorld.step LeaseWorld.close
      dsimp only
      split
      · rename_i closing hclosing
        split
        · by_cases hother : other = connection
          · subst hother
            obtain rfl := Option.some.inj (hconnection.symm.trans hclosing)
            have hlt := (List.getElem?_eq_some_iff.mp hconnection).1
            exact ⟨_, List.getElem?_set_self hlt, hclient⟩
          · exact ⟨c, (List.getElem?_set_ne hother).trans hconnection, hclient⟩
        · exact ⟨c, hconnection, hclient⟩
      · exact ⟨c, hconnection, hclient⟩
  | called other call => exact hsame (perform_cases w none other call).1
  | opened terminalId size spawned => exact ⟨c, hconnection, hclient⟩
  | exited terminalId exit => exact ⟨c, hconnection, hclient⟩
  | finalized terminalId => exact ⟨c, hconnection, hclient⟩

/-! ## The invariant -/

/-- A later lease of a terminal has a higher generation than an earlier one. -/
def LaterThan (later earlier : Granted) : Prop :=
  later.terminalId = earlier.terminalId →
    later.lease = earlier.lease ∨ earlier.lease.generation < later.lease.generation

structure Inv (w : LeaseWorld) : Prop where
  last : ∀ terminalId lease, w.gateway.leases terminalId = some lease → lastGranted w.granted terminalId = some lease
  bound : ∀ g ∈ w.granted, g.lease.generation ≤ w.gateway.leaseGenerations g.terminalId
  ordered : w.granted.Pairwise LaterThan
  owner : ∀ g ∈ w.granted, ∀ connection, g.connection = some connection → w.Names connection g.lease.clientId

theorem inv_start : Inv .start :=
  ⟨fun _ _ h => (nomatch h), List.forall_mem_nil _, List.Pairwise.nil, List.forall_mem_nil _⟩

theorem exists_of_lastGranted {granted : List Granted} (h : lastGranted granted terminalId = some lease) :
    ∃ g ∈ granted, g.terminalId = terminalId ∧ g.lease = lease := by
  obtain ⟨g, hfind, hlease⟩ := Option.map_eq_some_iff.mp h
  exact ⟨g, List.mem_of_find?_eq_some hfind, by simpa using List.find?_some hfind, hlease⟩

/-- The last lease of a terminal is as good as each earlier one, or better. -/
theorem laterThan_of_lastGranted {granted : List Granted} (hordered : granted.Pairwise LaterThan)
    (h : lastGranted granted terminalId = some lease) {g : Granted} (hmem : g ∈ granted)
    (hterminal : g.terminalId = terminalId) : lease = g.lease ∨ g.lease.generation < lease.generation := by
  induction granted with
  | nil => exact absurd hmem List.not_mem_nil
  | cons newest granted ih =>
      obtain ⟨hnewest, hordered⟩ := List.pairwise_cons.mp hordered
      unfold lastGranted at h
      by_cases hfirst : newest.terminalId = terminalId
      · rw [List.find?_cons_of_pos (by simpa using hfirst), Option.map_some, Option.some.injEq] at h
        subst h
        rcases List.mem_cons.mp hmem with rfl | hmem
        · exact .inl rfl
        · exact hnewest g hmem (hfirst.trans hterminal.symm)
      · rw [List.find?_cons_of_neg (by simpa using hfirst)] at h
        rcases List.mem_cons.mp hmem with rfl | hmem
        · exact absurd hterminal hfirst
        · exact ih hordered h hmem

theorem Inv.grants {g : Granted} (h : Inv w) (hgrants : Grants w w' g) :
    (∀ terminalId lease, w'.gateway.leases terminalId = some lease → lastGranted w'.granted terminalId = some lease) ∧
      (∀ g ∈ w'.granted, g.lease.generation ≤ w'.gateway.leaseGenerations g.terminalId) ∧
      w'.granted.Pairwise LaterThan := by
  rw [hgrants.granted]
  refine ⟨fun terminalId lease hlease => ?_, ?_, ?_⟩
  · unfold lastGranted
    by_cases hterminal : g.terminalId = terminalId
    · subst hterminal
      rw [List.find?_cons_of_pos (by simp)]
      exact hgrants.lease.symm.trans hlease
    · rw [List.find?_cons_of_neg (by simpa using hterminal)]
      rw [(hgrants.others terminalId (Ne.symm hterminal)).1] at hlease
      exact h.last terminalId lease hlease
  · refine List.forall_mem_cons.mpr ⟨?_, fun older hmem => ?_⟩
    · rcases hgrants.generation with ⟨hstands, hcounter⟩ | ⟨hgeneration, hcounter⟩
      · obtain ⟨first, hmem, hterminal, hlease⟩ := exists_of_lastGranted (h.last _ _ hstands)
        rw [hcounter, ← hlease, ← hterminal]
        exact h.bound first hmem
      · rw [hgeneration, hcounter]
    · have hbound := h.bound older hmem
      by_cases hterminal : older.terminalId = g.terminalId
      · rw [hterminal] at hbound ⊢
        rcases hgrants.generation with ⟨-, hcounter⟩ | ⟨-, hcounter⟩ <;> omega
      · rw [(hgrants.others _ hterminal).2]
        exact hbound
  · refine List.pairwise_cons.mpr ⟨fun older hmem hterminal => ?_, h.ordered⟩
    rcases hgrants.generation with ⟨hstands, -⟩ | ⟨hgeneration, -⟩
    · exact laterThan_of_lastGranted h.ordered (h.last _ _ hstands) hmem hterminal.symm
    · right
      have hbound := h.bound older hmem
      rw [← hterminal] at hbound
      omega

theorem Inv.step (h : Inv w) (event : LeaseEvent) : Inv (w.step event) := by
  have hnames (g : Granted) (hmem : g ∈ w.granted) (connection : Nat) (hconnection : g.connection = some connection) :
      (w.step event).Names connection g.lease.clientId := names_step (h.owner g hmem connection hconnection) event
  rcases step_cases w event with hquiet | ⟨g, hgrants, hvia⟩
  · refine ⟨fun terminalId lease hlease => ?_, ?_, ?_, ?_⟩ <;> rw [hquiet.granted]
    · exact h.last terminalId lease (hquiet.leases terminalId lease hlease)
    · rw [hquiet.generations]
      exact h.bound
    · exact h.ordered
    · exact hnames
  · obtain ⟨hlast, hbound, hordered⟩ := h.grants hgrants
    refine ⟨hlast, hbound, hordered, ?_⟩
    rw [hgrants.granted]
    exact List.forall_mem_cons.mpr
      ⟨fun connection hconnection => names_step (hvia connection hconnection) event, hnames⟩

theorem inv_run (events : List LeaseEvent) : Inv (.run events) := by
  induction events using List.reverseRecOn with
  | nil => exact inv_start
  | append_singleton events event ih =>
      rw [LeaseWorld.run, List.foldl_append]
      exact ih.step event

/-! ## Histories -/

/-- What holds of the input leases after any events. -/
structure LeaseSafe (w : LeaseWorld) : Prop where
  /-- Of all the leases granted for a terminal only the last one can stand. -/
  one : ∀ terminalId lease, w.gateway.leases terminalId = some lease → lastGranted w.granted terminalId = some lease
  /-- From lease to lease of a terminal the generation increases. -/
  generations : w.granted.Pairwise LaterThan
  /-- Input reaches the PTY only for the client and the id of the lease that stands. -/
  input : ∀ terminalId clientId leaseId, ¬Holds w.gateway terminalId clientId leaseId → ∀ sequence bytes,
    ∃ error, ∀ written, w.gateway.writeTerminalInput clientId terminalId leaseId sequence bytes written =
      (w.gateway, .error error)
  /-- The closing of a connection of another client leaves a lease that was granted through a connection. -/
  closing : ∀ g ∈ w.granted, ∀ connection c, g.connection = some connection → w.connections[connection]? = some c →
    ∀ other c', w.connections[other]? = some c' → c'.clientId ≠ c.clientId →
      w.gateway.leases g.terminalId = some g.lease →
        (w.step (.closed other)).gateway.leases g.terminalId = some g.lease

/-- The closing of a connection leaves the leases of other clients. -/
theorem leases_close {connection : Nat} {c : Connection} (hconnection : w.connections[connection]? = some c)
    (hlease : w.gateway.leases terminalId = some lease) (hclient : lease.clientId ≠ c.clientId) :
    (w.close connection).gateway.leases terminalId = some lease := by
  unfold LeaseWorld.close
  rw [hconnection]
  dsimp only
  split
  · exact Option.filter_eq_some_iff.mpr ⟨hlease, by simpa using hclient⟩
  · exact hlease

/-- **Main result.** In every order of the events the leases of a terminal follow each other, and a connection that
closes takes only leases of its own client away. -/
theorem inputLeases_history (events : List LeaseEvent) : LeaseSafe (.run events) := by
  have hinv := inv_run events
  refine ⟨hinv.last, hinv.ordered, fun terminalId clientId leaseId hnot sequence bytes => ?_, ?_⟩
  · exact writeTerminalInput_of_not_holds hnot sequence bytes
  · intro g hmem connection c hvia hconnection other c' hother hne hlease
    obtain ⟨owner, howner, hclient⟩ := hinv.owner g hmem connection hvia
    obtain rfl := Option.some.inj (hconnection.symm.trans howner)
    refine leases_close hother hlease ?_
    rw [← hclient]
    exact hne.symm

def sharedClientEvents : List LeaseEvent :=
  [.hello ⟨1⟩ protocolVersion .desktopController true, .hello ⟨1⟩ protocolVersion .desktopController true,
    .opened ⟨5⟩ ⟨80, 24, 0, 0⟩ .opened, .request 0 (.acquireInputLease ⟨5⟩ ⟨1⟩ ⟨9⟩)]

/-- Two live connections that name the same client: closing the second takes the lease of the first away. -/
theorem lease_closed_with_another_connection :
    (LeaseWorld.run sharedClientEvents).gateway.leases ⟨5⟩ = some ⟨⟨9⟩, ⟨1⟩, 1⟩ ∧
      (LeaseWorld.run sharedClientEvents).granted.map Granted.connection = [some 0] ∧
      (LeaseWorld.run (sharedClientEvents ++ [.closed 1])).gateway.leases ⟨5⟩ = none ∧
      (LeaseWorld.run (sharedClientEvents ++ [.closed 1])).connections[0]? =
        some ⟨⟨1⟩, .desktopController, true⟩ := by
  decide

end HyperTerm.Daemon.InputLeases
