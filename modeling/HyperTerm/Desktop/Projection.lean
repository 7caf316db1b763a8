import Mathlib.Data.List.Infix
import HyperTerm.Desktop.AgentBlocks
import HyperTerm.Desktop.Prompts

/-!
# The projection of a session

How the desktop client follows the document of its active Agent session: by snapshots, of which it asks for one at a
time, and by the patches of a stream.

* `Document` : what has been published of the document of a session;
* `ProjectionModel` : the client with what it shows, and what it waits for;
* `applyAgentSnapshotResponse`, `applyAgentStreamLine`, `applyAgentStreamClosed` : what Rust answers and streams;
* `ProjectionWorld`, `ProjectionEvent` : the requests and timers, and what may happen;
* `ProjectionSafe`, `Proceeds` : what is shown is of the active session, and is followed;
* `Published`, `projectAgentBlocks_segment` : what is published, and what a patch that is taken makes of the view.
-/

namespace HyperTerm.Desktop
open HyperTerm.Lib HyperTerm.Protocol HyperTerm.Core

/-! ## Published documents -/

section Documents

variable (D : Digests)

/-- The events of a task that its projector has accepted. -/
structure Document where
  taskId : TaskId
  events : List EventEnvelope
  accepted : ((BlockProjector.new taskId).applyAll D events).isOk

end Documents

namespace Document

variable {D : Digests} (d : Document D)

/-- The projector after the first events. -/
def projector (published : Nat) : BlockProjector :=
  match (BlockProjector.new d.taskId).applyAll D (d.events.take published) with
  | .ok (p, _) => p
  | .error _ => BlockProjector.new d.taskId

def patches : List BlockPatch :=
  match (BlockProjector.new d.taskId).applyAll D d.events with
  | .ok (_, patches) => patches
  | .error _ => []

def blocks (published : Nat) : List BlockEnvelope := ((d.projector published).snapshot D).blocks

/-- An event that the projector refuses is not published. -/
def publish (event : EventEnvelope) : Document D :=
  if h : ((BlockProjector.new d.taskId).applyAll D (d.events ++ [event])).isOk then
    { d with events := d.events ++ [event], accepted := h }
  else d

end Document

/-- The stream sends patches that follow each other within its cadence as one. -/
def mergePatches : List BlockPatch → Option BlockPatch
  | [] => none
  | patch :: patches => some (patches.foldl (fun merged next =>
      { merged with
        streamSequence := next.streamSequence
        targetRevision := next.targetRevision
        operations := merged.operations ++ next.operations }) patch)

/-! ## The client -/

structure ProjectionModel extends AgentModel where
  projection : AgentProjection := {}
  agentDocumentRevision : Nat := 0
  agentStreamSequence : Nat := 0
  agentSnapshotInFlightSessionId : UInt8 := 0
  agentSnapshotResyncRevision : Nat := 0
  agentStreamSessionId : UInt8 := 0

/-- `writeAgentSessionUrl` and `writeAgentStreamUrl` find the token; the rest of a URL always has room. -/
def Model.writesUrl (m : Model) : Bool := decide ("/?token=".toList <:+: m.agentBaseUrl.toList)

namespace ProjectionModel

/-- The part of `resetAgentProjection` that is about the document. -/
def clearAgentProjection (m : ProjectionModel) : ProjectionModel :=
  { m with
    projection := {}
    agentDocumentRevision := 0
    agentStreamSequence := 0
    agentSnapshotResyncRevision := 0 }

variable (wyhash : String → Nat)

def takesOperation (views : List AgentBlockView) : BlockOperation → Bool
  | .appendContent blockId _ _ _ => (findAgentAppendTarget wyhash views blockId).any fun view =>
      view.role = .agent || view.role = .thought
  | _ => false

def appendOperation (views : List AgentBlockView) : BlockOperation → List AgentBlockView
  | .appendContent blockId _ _ text => appendAgentBlockContent wyhash views blockId text
  | _ => views

/-- A patch is applied, and no snapshot is needed. -/
def takesPatch (m : ProjectionModel) (patch : BlockPatch) : Bool :=
  m.agentDocumentRevision < patch.targetRevision && m.agentSnapshotInFlightSessionId = 0 &&
    patch.baseRevision = m.agentDocumentRevision &&
    (m.agentStreamSequence = 0 || m.agentStreamSequence < patch.streamSequence) &&
    patch.operations.all (takesOperation wyhash m.projection.blocks)

end ProjectionModel

/-! ## Requests and timers -/

structure SnapshotRequest where
  sessionId : UInt8
  /-- What has been published when the client asks. -/
  published : Nat
  deriving DecidableEq

section Worlds

variable (D : Digests)

/-- The client, what the gateway publishes, and what the client has asked for. A timer fires once. -/
structure ProjectionWorld where
  model : ProjectionModel
  documents : UInt8 → Document D
  requests : List SnapshotRequest
  timers : List UInt8

end Worlds

/-- A line of the stream, as the client reads it. -/
inductive StreamLine where
  /-- Some of the stream is missing. -/
  | cut
  /-- No frame, one of another type, or one whose metadata is refused. -/
  | unreadable
  | state (status : Option AgentTurnStatus) (documentRevision : Option Nat)
  | resync (status : Option AgentTurnStatus) (targetRevision : Option Nat)
  | patch (status : Option AgentTurnStatus) (patch : BlockPatch)

/-- What becomes of a response: there is no snapshot, it is not of the session, or it is projected. -/
inductive SnapshotResponse where
  | failed
  | ignored
  | projected (status : AgentTurnStatus) (blocks : List BlockEnvelope) (revision : Nat)

namespace ProjectionWorld

variable {D : Digests} (wyhash : String → Nat) (w : ProjectionWorld D)

def requestAgentSnapshot (sessionId : UInt8) : ProjectionWorld D :=
  if w.model.agentSnapshotInFlightSessionId ≠ 0 ∨ w.model.writesUrl = false then w
  else
    { w with
      model := { w.model with agentSnapshotInFlightSessionId := sessionId }
      requests := w.requests ++ [⟨sessionId, (w.documents sessionId).events.length⟩] }

def requestAgentStream (sessionId : UInt8) : ProjectionWorld D :=
  if w.model.agentStreamSessionId ≠ 0 ∨ w.model.writesUrl = false then w
  else
    { w with
      model := { w.model with agentStreamSessionId := sessionId }
      timers := w.timers.filter fun timer => timer ≠ sessionId }

def requestActiveAgentStream : ProjectionWorld D :=
  match w.model.activeSession with
  | none => w
  | some session =>
      if session.mode = .agent ∧ session.agentConnection = .ready then
        (w.requestAgentSnapshot session.id).requestAgentStream session.id
      else w

def cancelAgentStream (sessionId : UInt8) : ProjectionWorld D :=
  if w.model.agentStreamSessionId ≠ sessionId then w
  else { w with model := { w.model with agentStreamSessionId := 0 } }

def scheduleAgentRefresh (sessionId : UInt8) : ProjectionWorld D := { w with timers := sessionId :: w.timers }

def requestAgentPatchResync (sessionId : UInt8) (targetRevision : Nat) : ProjectionWorld D :=
  requestAgentSnapshot
    { w with
      model := { w.model with
        agentSnapshotResyncRevision := max w.model.agentSnapshotResyncRevision targetRevision } } sessionId

/-! ## What Rust answers and streams -/

/-- The client is told the status of a turn, and what becomes of its prompt. -/
def tellAgent (agent : AgentModel) : ProjectionWorld D := { w with model := { w.model with toAgentModel := agent } }

def applyAgentSnapshotPayload (blocks : List BlockEnvelope) (revision : Nat) : ProjectionWorld D :=
  { w with
    model := { w.model with
      projection := projectAgentBlocks wyhash blocks
      agentDocumentRevision := revision
      agentStreamSequence := revision } }

/-- A snapshot that is older than a revision the stream has told of is asked for again. -/
def refreshAgent (sessionId : UInt8) : ProjectionWorld D :=
  let resynced : ProjectionWorld D :=
    if w.model.agentDocumentRevision < w.model.agentSnapshotResyncRevision then w.requestAgentSnapshot sessionId
    else { w with model := { w.model with agentSnapshotResyncRevision := 0 } }
  if w.model.agentTurnStatus = .running ∨ w.model.agentTurnStatus = .cancelling ∨ w.model.agentStreamSessionId = 0 then
    resynced.scheduleAgentRefresh sessionId
  else resynced

def applyAgentSnapshotResponse (sessionId : UInt8) (response : SnapshotResponse) : ProjectionWorld D :=
  let answered : ProjectionWorld D :=
    if w.model.agentSnapshotInFlightSessionId = sessionId then
      { w with model := { w.model with agentSnapshotInFlightSessionId := 0 } }
    else w
  if sessionId ≠ w.model.activeSessionId then answered.requestActiveAgentStream
  else
    match response with
    | .failed => answered.tellAgent (w.model.applyAgentSnapshotResponse sessionId .failed)
    | .ignored => answered.tellAgent (w.model.applyAgentSnapshotResponse sessionId .ignored)
    | .projected status blocks revision =>
        ((answered.applyAgentSnapshotPayload wyhash blocks revision).tellAgent
          (w.model.applyAgentSnapshotResponse sessionId (.projected status))).refreshAgent sessionId

def applyAgentPatch (sessionId : UInt8) (patch : BlockPatch) : ProjectionWorld D :=
  if patch.targetRevision ≤ w.model.agentDocumentRevision then
    { w with
      model := { w.model with agentStreamSequence := max w.model.agentStreamSequence patch.streamSequence } }
  else if w.model.takesPatch wyhash patch then
    { w with
      model := { w.model with
        projection := { w.model.projection with
          blocks := patch.operations.foldl (ProjectionModel.appendOperation wyhash) w.model.projection.blocks }
        agentDocumentRevision := patch.targetRevision
        agentStreamSequence := patch.streamSequence } }
  else w.requestAgentPatchResync sessionId patch.targetRevision

def applyAgentStreamLine (sessionId : UInt8) (line : StreamLine) : ProjectionWorld D :=
  if sessionId ≠ w.model.activeSessionId ∨ w.model.agentStreamSessionId ≠ sessionId then w
  else
    match line with
    | .cut => (w.cancelAgentStream sessionId).scheduleAgentRefresh sessionId
    | .unreadable => w.requestAgentSnapshot sessionId
    | .state status documentRevision =>
        let told := w.tellAgent (w.model.applyAgentStateFrame sessionId status)
        match documentRevision with
        | none => told
        | some revision =>
            if revision > w.model.agentDocumentRevision then told.requestAgentPatchResync sessionId revision else told
    | .resync status targetRevision =>
        (w.tellAgent (w.model.applyAgentFrameStatus sessionId status)).requestAgentPatchResync sessionId
          (targetRevision.getD 0)
    | .patch status patch =>
        (w.tellAgent (w.model.applyAgentFrameStatus sessionId status)).applyAgentPatch wyhash sessionId patch

def applyAgentStreamClosed (sessionId : UInt8) (cancelled : Bool) : ProjectionWorld D :=
  let closed := w.cancelAgentStream sessionId
  if sessionId ≠ w.model.activeSessionId ∨ w.model.activeMode ≠ .agent ∨ w.model.activeConnection ≠ .ready ∨
      cancelled = true then closed
  else (closed.requestAgentSnapshot sessionId).scheduleAgentRefresh sessionId

/-! ## Sessions -/

def clearAgentProjection : ProjectionWorld D := { w with model := w.model.clearAgentProjection }

/-- `update` of `select_session`. -/
def selectSession (sessionId : UInt8) : ProjectionWorld D :=
  let selected := w.tellAgent (w.model.toAgentModel.selectSession sessionId)
  if selected.model.activeSessionId = w.model.activeSessionId then selected
  else ((selected.cancelAgentStream w.model.activeSessionId).clearAgentProjection).requestActiveAgentStream

def closeSession (sessionId : UInt8) : ProjectionWorld D :=
  let closed := w.tellAgent (w.model.toAgentModel.closeSession sessionId)
  match w.model.findSession sessionId with
  | none => closed
  | some session =>
      let quiet : ProjectionWorld D :=
        if session.mode = .agent then
          cancelAgentStream { closed with timers := w.timers.filter fun timer => timer ≠ sessionId } sessionId
        else closed
      if w.model.activeSessionId = sessionId then quiet.clearAgentProjection.requestActiveAgentStream else quiet

def applyAgentSessionStarted (sessionId : UInt8) (ready : Bool) : ProjectionWorld D :=
  let started := w.tellAgent (w.model.toAgentModel.applyAgentSessionStarted sessionId ready).1
  if sessionId ≠ w.model.activeSessionId then started
  else if ready then (started.clearAgentProjection.requestAgentSnapshot sessionId).requestAgentStream sessionId
  else started.clearAgentProjection

end ProjectionWorld

/-! ## Events -/

/-- A frame of the stream: a patch is what was published from an event on. -/
inductive StreamFrame where
  | cut
  | unreadable
  | state (status : Option AgentTurnStatus) (documentRevision : Option Nat)
  | resync (status : Option AgentTurnStatus) (targetRevision : Option Nat)
  | patch (status : Option AgentTurnStatus) (published count : Nat)

/-- The answer to a request for a snapshot: a snapshot is of what has been published. -/
inductive SnapshotAnswer where
  | failed
  | ignored
  | document (status : AgentTurnStatus) (published : Nat)

inductive ProjectionEvent where
  | chooseTerminal
  | chooseAgent (provider : AgentProvider)
  | openLoginTerminal (provider : AgentProvider)
  | selectSession (sessionId : UInt8)
  | closeSession (sessionId : UInt8)
  | agentSessionStarted (sessionId : UInt8) (ready : Bool)
  /-- The gateway publishes an event of a session. -/
  | published (sessionId : UInt8) (event : EventEnvelope)
  | agentSnapshotReceived (index : Nat) (answer : SnapshotAnswer)
  | agentStreamLine (sessionId : UInt8) (frame : StreamFrame)
  | agentStreamClosed (sessionId : UInt8) (cancelled : Bool)
  | agentPoll (sessionId : UInt8)
  /-- A turn, a goal, a cancellation or a decision of the active session is accepted. -/
  | agentAccepted (status : AgentTurnStatus)

namespace Document

variable {D : Digests} (d : Document D)

/-- What the client reads of a frame; the stream sends no patch that is not published. -/
def line : StreamFrame → Option StreamLine
  | .cut => some .cut
  | .unreadable => some .unreadable
  | .state status documentRevision => some (.state status documentRevision)
  | .resync status targetRevision => some (.resync status targetRevision)
  | .patch status published count =>
      (mergePatches ((d.patches.drop published).take count)).map fun patch => .patch status patch

/-- What the client reads of the answer to a request, which the gateway comes to after the request is made. -/
def response (request : SnapshotRequest) : SnapshotAnswer → Option SnapshotResponse
  | .failed => some .failed
  | .ignored => some .ignored
  | .document status published =>
      if request.published ≤ published ∧ published ≤ d.events.length then
        some (.projected status (d.blocks published) (d.projector published).revision)
      else none

end Document

namespace ProjectionWorld

variable {D : Digests} (wyhash : String → Nat) (w : ProjectionWorld D)

def step : ProjectionEvent → ProjectionWorld D
  | .chooseTerminal => w.tellAgent { w.model.toAgentModel with toModel := w.model.chooseTerminal.1 }
  | .chooseAgent provider =>
      w.tellAgent { w.model.toAgentModel with toModel := (w.model.createAgentSession provider).1 }
  | .openLoginTerminal provider =>
      w.tellAgent { w.model.toAgentModel with toModel := (w.model.openProviderLoginTerminal provider).1 }
  | .selectSession sessionId => w.selectSession sessionId
  -- with the last session the window is closed
  | .closeSession sessionId => if w.model.sessionSlots.length = 1 then w else w.closeSession sessionId
  -- only what is asked for is answered
  | .agentSessionStarted sessionId ready =>
      if (w.model.findSession sessionId).any fun session =>
          session.mode = .agent && session.agentConnection = .connecting then
        w.applyAgentSessionStarted sessionId ready
      else w
  | .published sessionId event =>
      { w with documents := Function.update w.documents sessionId ((w.documents sessionId).publish event) }
  | .agentSnapshotReceived index answer =>
      match w.requests[index]? with
      | none => w
      | some request =>
          match (w.documents request.sessionId).response request answer with
          | none => w
          | some response =>
              applyAgentSnapshotResponse wyhash { w with requests := w.requests.eraseIdx index } request.sessionId
                response
  | .agentStreamLine sessionId frame =>
      match (w.documents sessionId).line frame with
      | none => w
      | some line => w.applyAgentStreamLine wyhash sessionId line
  | .agentStreamClosed sessionId cancelled => w.applyAgentStreamClosed sessionId cancelled
  | .agentPoll sessionId =>
      if sessionId ∈ w.timers then
        requestActiveAgentStream { w with timers := w.timers.filter fun timer => timer ≠ sessionId }
      else w
  | .agentAccepted status =>
      (w.tellAgent { w.model.toAgentModel with agentTurnStatus := status }).scheduleAgentRefresh w.model.activeSessionId

end ProjectionWorld

/-! ## What is safe -/

def IsReady (m : Model) (sessionId : UInt8) : Prop :=
  ∃ session ∈ m.sessionSlots, session.id = sessionId ∧ session.mode = .agent ∧ session.agentConnection = .ready

section Safe

variable {D : Digests} (wyhash : String → Nat) (w : ProjectionWorld D)

/-- The client shows the document of the active session as it was after this many events. -/
structure Projects (published : Nat) : Prop where
  within : published ≤ (w.documents w.model.activeSessionId).events.length
  revision : w.model.agentDocumentRevision = ((w.documents w.model.activeSessionId).projector published).revision
  projection : w.model.projection = projectAgentBlocks wyhash ((w.documents w.model.activeSessionId).blocks published)

/-- A refresh of the active session is on its way: a timer, its snapshot, or the snapshot of a session that was left, on
whose arrival the client asks for its own. -/
def Outstanding : Prop :=
  w.model.activeSessionId ∈ w.timers ∨
    ∃ index request, w.requests[index]? = some request ∧
      (request.sessionId = w.model.activeSessionId ∨
        ∀ answer, (w.documents request.sessionId).response request answer ≠ none →
          ∃ next ∈ (w.step wyhash (.agentSnapshotReceived index answer)).requests,
            next.sessionId = w.model.activeSessionId)

structure ProjectionSafe : Prop where
  shows : ∃ published, Projects wyhash w published
  owed : w.model.agentSnapshotResyncRevision ≠ 0 → Outstanding wyhash w

/-- While a session stays active its revision does not go back, and a patch is for what is shown. -/
structure Proceeds (event : ProjectionEvent) : Prop where
  revision : (w.step wyhash event).model.activeSessionId = w.model.activeSessionId →
    w.model.agentDocumentRevision ≤ (w.step wyhash event).model.agentDocumentRevision
  patched : ∀ sessionId status published count patch,
    event = .agentStreamLine sessionId (.patch status published count) →
    mergePatches (((w.documents sessionId).patches.drop published).take count) = some patch →
    ((w.step wyhash event).model.agentDocumentRevision ≠ w.model.agentDocumentRevision ∨
      (w.step wyhash event).model.projection ≠ w.model.projection) →
    sessionId = w.model.activeSessionId ∧ patch.baseRevision = w.model.agentDocumentRevision

/-! ## The condition -/

/-- A session opens under an id that is not in use, while nothing of another session is shown or waited for. -/
def OpensBlank : Prop :=
  NextFree w.model.toModel ∧ (w.model.sessionSlots.length < maxSessions →
    w.model.projection = {} ∧ w.model.agentDocumentRevision = 0 ∧ w.model.agentSnapshotResyncRevision = 0 ∧
      ∀ request ∈ w.requests, request.sessionId ≠ w.model.nextSessionId)

/-- Every message that a patch appends to is shown alone, and shows what is appended. -/
def AppendsInOrder (d : Document D) (published count : Nat) : Prop :=
  ∀ k patch, published ≤ k → k < published + count → d.patches[k]? = some patch →
    ∀ blockId expectedPreviousRevision blockRevision text,
      .appendContent blockId expectedPreviousRevision blockRevision text ∈ patch.operations →
        ShowsAppend wyhash (d.blocks k) blockId text

def ProjectionInOrder : ProjectionEvent → Prop
  | .chooseTerminal => OpensBlank w
  | .chooseAgent provider =>
      ¬(w.model.availableAgentProviders ≠ [] ∧ w.model.agentProviderAvailable provider = false) → OpensBlank w
  | .openLoginTerminal provider => provider.loginCommand ≠ none → OpensBlank w
  -- a snapshot of the active session that fails leaves a refresh behind, where one is owed
  | .agentSnapshotReceived index .failed | .agentSnapshotReceived index .ignored =>
      ∀ request ∈ w.requests[index]?, request.sessionId = w.model.activeSessionId →
        w.model.agentSnapshotResyncRevision ≠ 0 → w.model.activeSessionId ∈ w.timers
  | .agentStreamLine sessionId (.patch _ published count) =>
      ∀ patch ∈ mergePatches (((w.documents sessionId).patches.drop published).take count),
        w.model.takesPatch wyhash patch = true → AppendsInOrder wyhash (w.documents sessionId) published count
  | _ => True

end Safe

section Runs

variable {D : Digests} (wyhash : String → Nat)

def AllProjectionsInOrder : ProjectionWorld D → List ProjectionEvent → Prop
  | _, [] => True
  | w, event :: events => ProjectionInOrder wyhash w event ∧ AllProjectionsInOrder (w.step wyhash event) events

/-- The client has just started, from what Rust has stored of the workspace. -/
def ProjectionWorld.start (launch : Launch) (store : Store) (documents : UInt8 → Document D) : ProjectionWorld D where
  model := { toModel := boot launch store }
  documents := documents
  requests := []
  timers := []

def ProjectionWorld.run (launch : Launch) (store : Store) (documents : UInt8 → Document D)
    (events : List ProjectionEvent) : ProjectionWorld D :=
  events.foldl (ProjectionWorld.step wyhash) (ProjectionWorld.start launch store documents)

end Runs

/-! ## What is published -/

section Published

variable {D : Digests}

/-- The operation that files a block tells of the block as it is filed. -/
theorem upsert_operation {p p' : BlockProjector} {block : BlockEnvelope} {sequence : Nat} {operation : BlockOperation}
    (h : p.upsert block sequence = .ok (p', operation)) : ∃ filed, operation = .upsert filed := by
  unfold BlockProjector.upsert at h
  split at h
  · split_ifs at h
    exact ⟨_, (Prod.mk.inj (Except.ok.inj h)).2.symm⟩
  · exact ⟨_, (Prod.mk.inj (Except.ok.inj h)).2.symm⟩

/-- A document whose message has grown lists the same blocks, in the same order. -/
theorem snapshot_appended {p : BlockProjector} {block : BlockEnvelope} {role : MessageRole} {existing text : String}
    {external : Option String} {sequence revision : Nat} (hget : p.blocks.get? block.blockId = some block)
    (hpayload : block.payload = .message role existing external) :
    (BlockProjector.snapshot D { p with
      revision
      blocks := p.blocks.put { block with
        payload := .message role (existing ++ text) external
        blockRevision := block.blockRevision + 1
        documentRevision := sequence } }).blocks =
      (p.snapshot D).blocks.map (growMessage block.blockId text sequence) := by
  have hlists : Lists (p.snapshot D).blocks p.blocks := (lists_values p.blocks).sort sortKey
  have hsorted : (p.snapshot D).blocks.Pairwise fun a b => sortKey a ≤ sortKey b := sortByKey_pairwise sortKey _
  generalize (p.snapshot D).blocks = blocks at hlists hsorted
  let grown : BlockEnvelope := { block with
    payload := .message role (existing ++ text) external
    blockRevision := block.blockRevision + 1
    documentRevision := sequence }
  have hmap : updateFirst (fun b => b.blockId = block.blockId) (fun _ => grown) blocks =
      blocks.map (growMessage block.blockId text sequence) := by
    rw [updateFirst_eq_map hlists.nodup]
    refine List.map_congr_left fun b hb => ?_
    by_cases hid : b.blockId = block.blockId
    · have hsame : b = block := by
        have hb' := (hlists.mem_iff b).mp hb
        rw [hid, hget] at hb'
        exact (Option.some_inj.mp hb').symm
      rw [if_pos hid, hsame, growMessage_message hpayload rfl]
    · rw [if_neg hid, growMessage_of_ne hid]
  have hkey (b : BlockEnvelope) : sortKey (growMessage block.blockId text sequence b) = sortKey b := by
    obtain h | ⟨role', existing', external', hid, hpayload'⟩ := growMessage_cases block.blockId text sequence b
    · rw [h]
    · rw [growMessage_message hpayload' hid]
      rfl
  have hgrown : Lists (updateFirst (fun b => b.blockId = block.blockId) (fun _ => grown) blocks) (p.blocks.put grown) :=
    hlists.overwrite (b := grown) hget
  have hsorted' : (blocks.map (growMessage block.blockId text sequence)).Pairwise fun a b => sortKey a ≤ sortKey b := by
    rw [List.pairwise_map]
    exact hsorted.imp fun {a b} hab => by rwa [hkey a, hkey b]
  show sortByKey sortKey (p.blocks.put grown).values = _
  rw [← hgrown.sortByKey_eq fun _ _ => sortKey_blockId, hmap]
  exact hsorted'.insertionSort_eq

/-- What an operation of the stream does to the document. -/
inductive Published (blocks blocks' : List BlockEnvelope) (targetRevision : Nat) : List BlockOperation → Prop
  | unchanged (h : blocks' = blocks) : Published blocks blocks' targetRevision []
  | filed (block : BlockEnvelope) : Published blocks blocks' targetRevision [.upsert block]
  | appended (blockId : BlockId) (previousRevision blockRevision : Nat) (text : String)
      (h : blocks' = blocks.map (growMessage blockId text targetRevision)) :
      Published blocks blocks' targetRevision [.appendContent blockId previousRevision blockRevision text]

theorem published_of_apply {p p' : BlockProjector} {event : EventEnvelope} {patch : BlockPatch}
    (h : p.apply D event = .ok (p', patch)) :
    Published (p.snapshot D).blocks (p'.snapshot D).blocks patch.targetRevision patch.operations := by
  obtain ⟨-, -, q, operations, hq, rfl, rfl⟩ := BlockProjector.apply_eq_ok.mp h
  cases BlockProjector.applyPayload_change hq with
  | unchanged => exact .unchanged rfl
  | filed block hupsert =>
      obtain ⟨filed, rfl⟩ := upsert_operation hupsert
      exact .filed filed
  | appended block role existing text external hget hpayload =>
      exact .appended _ _ _ _ (snapshot_appended hget hpayload)

namespace Document

variable (d : Document D)

theorem applyAll_events :
    (BlockProjector.new d.taskId).applyAll D d.events = .ok (d.projector d.events.length, d.patches) := by
  have haccepted := d.accepted
  unfold projector Document.patches
  rw [List.take_length]
  cases hall : (BlockProjector.new d.taskId).applyAll D d.events with
  | ok out => rfl
  | error e =>
      rw [hall] at haccepted
      cases haccepted

theorem length_patches : d.patches.length = d.events.length := BlockProjector.length_applyAll d.applyAll_events

/-- The patches of the first events are the first patches. -/
theorem applyAll_take (k : Nat) :
    (BlockProjector.new d.taskId).applyAll D (d.events.take k) = .ok (d.projector k, d.patches.take k) := by
  have hlength := d.length_patches
  have hall := d.applyAll_events
  rw [← List.take_append_drop k d.events, BlockProjector.applyAll_append, List.take_append_drop] at hall
  obtain ⟨q, first, rest, hfirst, -, happend⟩ := hall
  have hprojector : d.projector k = q := by
    unfold projector
    rw [hfirst]
  have htake : d.patches.take k = first := by
    have hlength' := BlockProjector.length_applyAll hfirst
    rw [List.length_take] at hlength'
    rw [happend]
    rcases Nat.le_total k d.events.length with hk | hk
    · exact List.take_left' (by omega)
    · rw [happend, List.length_append] at hlength
      have hrest : rest = [] := List.length_eq_zero_iff.mp (by omega)
      rw [hrest, List.append_nil, List.take_of_length_le (by omega)]
  rw [hfirst, hprojector, htake]

/-- Every event that is published has its patch. -/
theorem apply_projector {k : Nat} (hk : k < d.events.length) :
    ∃ event patch, d.patches[k]? = some patch ∧ (d.projector k).apply D event = .ok (d.projector (k + 1), patch) := by
  have hnext := d.applyAll_take (k + 1)
  rw [List.take_succ_eq_append_getElem hk, BlockProjector.applyAll_append] at hnext
  obtain ⟨q, first, last, hfirst, hlast, happend⟩ := hnext
  obtain ⟨rfl, rfl⟩ := Prod.mk.inj (Except.ok.inj ((d.applyAll_take k).symm.trans hfirst))
  simp only [BlockProjector.applyAll, bind_eq_ok, pure_eq_ok, Prod.exists, Prod.mk.injEq, Except.ok.injEq] at hlast
  obtain ⟨q, patch, happly, q', patches, ⟨rfl, rfl⟩, rfl, rfl⟩ := hlast
  refine ⟨_, patch, ?_, happly⟩
  have hlength := BlockProjector.length_applyAll hfirst
  rw [List.length_take (l := d.events), Nat.min_eq_left hk.le] at hlength
  have hget := congrArg (fun l => l[k]?) happend
  rw [List.getElem?_take_of_lt (Nat.lt_succ_self k), List.getElem?_append_right hlength.le, hlength,
    Nat.sub_self] at hget
  exact hget

theorem revision_zero : (d.projector 0).revision = 0 := rfl

theorem blocks_zero : d.blocks 0 = [] := rfl

/-- Each event takes the document to a later revision. -/
theorem revision_succ {k : Nat} (hk : k < d.events.length) :
    (d.projector k).revision < (d.projector (k + 1)).revision := by
  obtain ⟨event, patch, -, happly⟩ := d.apply_projector hk
  obtain ⟨-, hlt, q, operations, -, hnext, -⟩ := BlockProjector.apply_eq_ok.mp happly
  rw [hnext]
  exact hlt

theorem revision_lt {j k : Nat} (hjk : j < k) (hk : k ≤ d.events.length) :
    (d.projector j).revision < (d.projector k).revision := by
  induction k, hjk using Nat.le_induction with
  | base => exact d.revision_succ (Nat.lt_of_succ_le hk)
  | succ k hjk ih => exact (ih (by omega)).trans (d.revision_succ (Nat.lt_of_succ_le hk))

theorem revision_le {j k : Nat} (hjk : j ≤ k) (hk : k ≤ d.events.length) :
    (d.projector j).revision ≤ (d.projector k).revision := by
  rcases Nat.lt_or_eq_of_le hjk with hlt | rfl
  · exact (d.revision_lt hlt hk).le
  · exact le_rfl

/-- A revision is of one number of events. -/
theorem revision_injective {j k : Nat} (hj : j ≤ d.events.length) (hk : k ≤ d.events.length)
    (h : (d.projector j).revision = (d.projector k).revision) : j = k := by
  rcases Nat.lt_trichotomy j k with hlt | heq | hgt
  · exact absurd h (d.revision_lt hlt hk).ne
  · exact heq
  · exact absurd h.symm (d.revision_lt hgt hj).ne

theorem nodup_blocks (k : Nat) : ((d.blocks k).map BlockEnvelope.blockId).Nodup :=
  ((lists_values (d.projector k).blocks).sort sortKey).nodup

/-- A later publication leaves what was published. -/
theorem publish_projector (event : EventEnvelope) {k : Nat} (hk : k ≤ d.events.length) :
    ((d.publish event).projector k = d.projector k ∧ k ≤ (d.publish event).events.length) := by
  unfold publish
  split
  · refine ⟨?_, ?_⟩
    · unfold projector
      rw [List.take_append_of_le_length hk]
    · rw [List.length_append]
      omega
  · exact ⟨rfl, hk⟩

/-- The patches of some events. -/
def segment (published count : Nat) : List BlockPatch := (d.patches.drop published).take count

theorem segment_succ {published count : Nat} {patch : BlockPatch} (h : d.patches[published + count]? = some patch) :
    d.segment published (count + 1) = d.segment published count ++ [patch] := by
  unfold segment
  rw [List.take_add_one, List.getElem?_drop, h]
  rfl

end Document

theorem mergePatches_fold (merged : BlockPatch) (patches : List BlockPatch) :
    let out := patches.foldl (fun merged next =>
      { merged with
        streamSequence := next.streamSequence
        targetRevision := next.targetRevision
        operations := merged.operations ++ next.operations }) merged
    out.baseRevision = merged.baseRevision ∧
      out.operations = merged.operations ++ patches.flatMap BlockPatch.operations ∧
      out.targetRevision = (patches.getLast?.map BlockPatch.targetRevision).getD merged.targetRevision := by
  induction patches using List.reverseRecOn with
  | nil => exact ⟨rfl, (List.append_nil _).symm, rfl⟩
  | append_singleton patches patch ih =>
      obtain ⟨hbase, hoperations, -⟩ := ih
      rw [List.foldl_append, List.flatMap_append, List.getLast?_concat]
      refine ⟨hbase, ?_, rfl⟩
      show _ ++ patch.operations = _
      rw [hoperations, List.append_assoc, List.flatMap_singleton]

/-- A merged patch takes a document from where its first patch starts to where its last one leads. -/
theorem mergePatches_segment {d : Document D} {published count : Nat} {patch : BlockPatch}
    (h : mergePatches (d.segment published count) = some patch) :
    ∃ n, published + n + 1 ≤ d.events.length ∧ n + 1 ≤ count ∧ d.segment published count = d.segment published (n + 1) ∧
      patch.baseRevision = (d.projector published).revision ∧
      patch.targetRevision = (d.projector (published + n + 1)).revision ∧
      patch.operations = (d.segment published (n + 1)).flatMap BlockPatch.operations := by
  have hlength : (d.segment published count).length = min count (d.events.length - published) := by
    unfold Document.segment
    rw [List.length_take, List.length_drop, d.length_patches]
  have hne : d.segment published count ≠ [] := by
    intro hnil
    rw [hnil] at h
    cases h
  have hpos := List.length_pos_of_ne_nil hne
  obtain ⟨n, hn⟩ : ∃ n, min count (d.events.length - published) = n + 1 :=
    ⟨min count (d.events.length - published) - 1, by omega⟩
  have hsame : d.segment published count = d.segment published (n + 1) := by
    refine List.take_eq_take_iff.mpr ?_
    rw [List.length_drop, d.length_patches]
    omega
  obtain ⟨event, patch₀, hpatch₀, happly₀⟩ := d.apply_projector (k := published) (by omega)
  obtain ⟨event', patch', hpatch', happly'⟩ := d.apply_projector (k := published + n) (by omega)
  have hhead : d.segment published (n + 1) = patch₀ :: (d.segment published (n + 1)).tail := by
    unfold Document.segment
    rw [List.drop_eq_getElem?_toList_append, hpatch₀]
    rfl
  have hlast : (d.segment published (n + 1)).getLast? = some patch' := by
    rw [d.segment_succ hpatch', List.getLast?_concat]
  refine ⟨n, by omega, by omega, hsame, ?_⟩
  have hfold := mergePatches_fold patch₀ (d.segment published (n + 1)).tail
  rw [hsame, hhead] at h
  obtain ⟨hbase, hoperations, htarget⟩ := hfold
  rw [← Option.some_inj.mp h, hbase, hoperations, htarget, hhead, List.tail_cons, List.flatMap_cons]
  obtain ⟨-, -, _, _, -, -, hfirst⟩ := BlockProjector.apply_eq_ok.mp happly₀
  obtain ⟨-, -, _, _, -, hnext, hpatch⟩ := BlockProjector.apply_eq_ok.mp happly'
  refine ⟨by rw [hfirst], ?_, rfl⟩
  have hto : patch'.targetRevision = (d.projector (published + n + 1)).revision := by
    rw [hnext, hpatch]
  rw [← hto]
  rw [hhead, List.getLast?_cons] at hlast
  cases hrest : (d.segment published (n + 1)).tail.getLast? with
  | none =>
      rw [hrest] at hlast
      rw [← Option.some_inj.mp hlast]
      rfl
  | some last =>
      rw [hrest] at hlast
      rw [← Option.some_inj.mp hlast]
      rfl

/-! ## What a patch appends -/

variable {wyhash : String → Nat}

theorem find?_updateFirst_any {α : Type} {p q r : α → Bool} {f : α → α} (hq : ∀ a, q (f a) = q a)
    (hr : ∀ a, r (f a) = r a) (l : List α) : ((updateFirst p f l).find? q).any r = (l.find? q).any r := by
  induction l with
  | nil => rfl
  | cons a l ih =>
      unfold updateFirst
      split
      · rw [List.find?_cons, List.find?_cons, hq]
        cases q a with
        | true => exact hr a
        | false => rfl
      · rw [List.find?_cons, List.find?_cons]
        cases q a with
        | true => rfl
        | false => exact ih

/-- Appending changes nothing about which operations are taken. -/
theorem takesOperation_append (views : List AgentBlockView) (blockId : BlockId) (text : String)
    (operation : BlockOperation) :
    ProjectionModel.takesOperation wyhash (appendAgentBlockContent wyhash views blockId text) operation =
      ProjectionModel.takesOperation wyhash views operation := by
  unfold ProjectionModel.takesOperation
  cases operation with
  | appendContent other previous revision text' =>
      exact find?_updateFirst_any (q := isAppendTarget wyhash other) (f := fun view => view.appendContent text)
        (fun _ => rfl) (fun _ => rfl) views
  | upsert | remove => rfl

theorem isSome_of_takesOperation {views : List AgentBlockView} {blockId : BlockId} {previous revision : Nat}
    {text : String}
    (h : ProjectionModel.takesOperation wyhash views (.appendContent blockId previous revision text) = true) :
    (findAgentAppendTarget wyhash views blockId).isSome := by
  obtain ⟨view, hview, -⟩ := (Option.any_eq_true _ _).mp h
  exact Option.isSome_iff_exists.mpr ⟨view, hview⟩

/-- A patch that is taken makes of the view what the document has become. -/
theorem projectAgentBlocks_segment {d : Document D} {published n : Nat} (hn : published + n ≤ d.events.length)
    (hshows : AppendsInOrder wyhash d published n)
    (htakes : ∀ operation ∈ (d.segment published n).flatMap BlockPatch.operations,
      ProjectionModel.takesOperation wyhash (projectAgentBlocks wyhash (d.blocks published)).blocks operation = true) :
    projectAgentBlocks wyhash (d.blocks (published + n)) =
        { projectAgentBlocks wyhash (d.blocks published) with
          blocks := ((d.segment published n).flatMap BlockPatch.operations).foldl
            (ProjectionModel.appendOperation wyhash) (projectAgentBlocks wyhash (d.blocks published)).blocks } ∧
      ∀ operation, ProjectionModel.takesOperation wyhash (projectAgentBlocks wyhash (d.blocks (published + n))).blocks
          operation =
        ProjectionModel.takesOperation wyhash (projectAgentBlocks wyhash (d.blocks published)).blocks operation := by
  induction n with
  | zero =>
      have hnil : d.segment published 0 = [] := List.take_zero
      simp only [Nat.add_zero, hnil, List.flatMap_nil, List.foldl_nil, implies_true, and_self]
  | succ n ih =>
      obtain ⟨event, patch, hpatch, happly⟩ := d.apply_projector (k := published + n) (by omega)
      rw [d.segment_succ hpatch, List.flatMap_append, List.flatMap_singleton] at htakes ⊢
      obtain ⟨hviews, htaken⟩ := ih (by omega) (fun k patch hle hlt => hshows k patch hle (by omega))
        fun operation ho => htakes operation (List.mem_append_left _ ho)
      have hpublished : Published (d.blocks (published + n)) (d.blocks (published + n + 1)) patch.targetRevision
          patch.operations := published_of_apply happly
      have hshown := hshows (published + n) patch (by omega) (by omega) hpatch
      rw [List.foldl_append, ← Nat.add_assoc]
      have hblocks := congrArg AgentProjection.blocks hviews
      dsimp only at hblocks
      rw [← hblocks]
      generalize projectAgentBlocks wyhash (d.blocks published) = before at *
      have hsame := d.nodup_blocks (published + n)
      generalize hops : patch.operations = operations at hpublished hshown htakes
      cases hpublished with
      | unchanged h =>
          rw [h]
          refine ⟨?_, htaken⟩
          rw [List.foldl_nil, hblocks]
          exact hviews
      | filed block =>
          have htake := htakes (.upsert block) (List.mem_append_right _ (List.mem_singleton_self _))
          cases htake
      | appended blockId previous revision text h =>
          have htake := htakes _ (List.mem_append_right _ (List.mem_singleton_self _))
          rw [← htaken] at htake
          have happend := @projectAgentBlocks_append wyhash _ blockId text patch.targetRevision hsame
            (hshown blockId previous revision text (List.mem_singleton_self _)) (isSome_of_takesOperation htake)
          rw [h, happend]
          generalize projectAgentBlocks wyhash (d.blocks (published + n)) = now at hviews htaken ⊢
          refine ⟨?_, fun operation => ?_⟩
          · rw [hviews]
            rfl
          · rw [takesOperation_append]
            exact htaken operation

end Published

end HyperTerm.Desktop
