import HyperTerm.Core.PatchStream
import HyperTerm.Lib.Text

/-!
# Agent blocks

How the desktop client shows the blocks of a document, and how it appends text to what it shows.

* `agentGroups` : calls and thoughts that follow each other make one block of the view;
* `projectAgentBlocks` : the view of a document, bounded in blocks and in bytes;
* `appendAgentBlockContent` : text appended to a block of the view;
* `projectAgentBlocks_append` : the view of a document whose message has grown is the view with the text appended, where
  the block that takes the text shows that message alone, and shows all of it (`ShowsAppend`).
-/

namespace HyperTerm.Desktop
open HyperTerm.Lib HyperTerm.Protocol HyperTerm.Core

/-! ## Texts -/

def maxBlockBytes : Nat := 8 * 1024

def maxAgentBlocks : Nat := 128

/-- A separator, and what follows the first one of them in a text. -/
def afterBlankLine : List Char → Option (List Char)
  | '\n' :: '\n' :: rest => some rest
  | _ :: rest => afterBlankLine rest
  | [] => none

def isLowSignal (text : String) : Bool :=
  "Warning: Skill descriptions were shortened to fit".toList.isPrefixOf text.toList ||
    "Model metadata for ".toList.isPrefixOf text.toList

/-- A warning of the provider in front of a message is not shown. -/
def visibleAgentMessageText (text : String) : String :=
  if isLowSignal text then
    ((afterBlankLine text.toList).map fun rest =>
      String.ofList (rest.dropWhile fun c => c = '\r' || c = '\n' || c = ' ')).getD ""
  else text

/-! ## The view of a block -/

inductive AgentViewKind where
  | message
  | operation
  | approval
  | toolCall
  deriving DecidableEq, Repr

/-- A block of the view. Its status, risk, decision, title and meta, its counts and its changed files, are told from
`calls`, `source` and `operation`. -/
structure AgentBlockView where
  id : Nat
  kind : AgentViewKind := .message
  role : MessageRole := .agent
  content : String := ""
  truncated : Bool := false
  hasReasoning : Bool := false
  calls : List AgentToolCall := []
  source : Option BlockEnvelope := none
  operation : Option BlockEnvelope := none
  deriving DecidableEq

namespace AgentBlockView

/-- `copyAgentBlockContent`. -/
def copyContent (view : AgentBlockView) (text : String) : AgentBlockView :=
  { view with
    content := utf8Bounded maxBlockBytes text
    truncated := (utf8Bounded maxBlockBytes text).utf8ByteSize < text.utf8ByteSize }

/-- `appendAgentBlockContent`, and `appendActivitySlice`. -/
def appendContent (view : AgentBlockView) (text : String) : AgentBlockView :=
  let appended := utf8Bounded (maxBlockBytes - view.content.utf8ByteSize) text
  { view with
    content := view.content ++ appended
    truncated := view.truncated || appended.utf8ByteSize < text.utf8ByteSize }

/-- `appendActivityFmt`: all of it, or nothing. -/
def appendFormatted (view : AgentBlockView) (text : String) : AgentBlockView :=
  if view.content.utf8ByteSize + text.utf8ByteSize ≤ maxBlockBytes then { view with content := view.content ++ text }
  else { view with truncated := true }

end AgentBlockView

/-! ## Calls of tools -/

def agentToolStatusLabel : AgentToolStatus → String
  | .pending => "pending"
  | .inProgress => "running"
  | .completed => "completed"
  | .failed => "failed"

def displayAgentToolTitle (kind : AgentToolKind) (title : String) : String :=
  if title = "mcp__hyper_term__startup" then "Start Hyper Term tools"
  else if kind = .execute ∧ (title.utf8ByteSize > 80 ∨ title.toList.any fun c => c = '|' || c = ';' || c = '&' || c = '\n')
    then "Run shell command"
  else title

def appendToolContent (view : AgentBlockView) : AgentToolContent → AgentBlockView
  | .text text => (view.appendContent text).appendContent "\n\n"
  | .diff path patch _ _ =>
      ((view.appendFormatted ("**" ++ path ++ "**\n\n```diff\n")).appendContent patch).appendContent "\n```\n\n"
  | .terminal terminalId => view.appendFormatted ("**Terminal** `" ++ terminalId ++ "`\n\n")
  | .media kind mimeType _ encodedBytes =>
      view.appendFormatted ("**" ++ (match kind with | .image => "image" | .audio => "audio") ++ "** · " ++ mimeType ++
        " · " ++ encodedBytes.repr ++ " encoded bytes\n\n")
  | .resource name uri _ text _ =>
      let named := view.appendFormatted ("**" ++ name ++ "** · `" ++ uri ++ "`\n\n")
      text.elim named fun text => (named.appendContent text).appendContent "\n\n"

def appendToolLocation (view : AgentBlockView) (location : AgentToolLocation) : AgentBlockView :=
  view.appendFormatted ("- `" ++ location.path ++ (location.line.elim "" fun line => ":" ++ line.repr) ++ "`\n")

def appendRaw (heading : String) (footer : String) (view : AgentBlockView) : Option String → AgentBlockView
  | none => view
  | some raw => ((view.appendContent heading).appendContent raw).appendContent footer

def appendAgentToolCall (view : AgentBlockView) (call : AgentToolCall) : AgentBlockView :=
  let separated : AgentBlockView :=
    if view.calls = [] ∧ view.content = "" then { view with kind := .toolCall }
    else AgentBlockView.appendContent { view with kind := .toolCall } "\n---\n\n"
  let titled := AgentBlockView.appendFormatted { separated with calls := view.calls ++ [call] }
    ("**" ++ displayAgentToolTitle call.kind call.title ++ "** · _" ++ agentToolStatusLabel call.status ++ "_\n\n")
  let located := call.locations.foldl appendToolLocation titled
  let separated := if call.locations = [] then located else located.appendContent "\n"
  let told := call.content.foldl appendToolContent separated
  appendRaw "**Output**\n\n```json\n" "\n```\n"
    (appendRaw "**Input**\n\n```json\n" "\n```\n\n" told call.rawInput) call.rawOutput

/-! ## Blocks of a document -/

inductive AgentProjectionGroup where
  | none
  | activity
  | single
  deriving DecidableEq

def renderableAgentBlock (block : BlockEnvelope) : Bool :=
  match block.kind, block.payload with
  | .message, .message role text _ => role ≠ .agent || visibleAgentMessageText text ≠ ""
  | .agentToolCall, .agentToolCall _ call => call.title ≠ ""
  | .agentPlan, .agentPlan _ entries => entries ≠ []
  | .operation, .operation .. => block.trustClass = .trustedChrome
  | .approval, .approval .. => block.trustClass = .trustedChrome
  | _, _ => false

def agentProjectionGroup (block : BlockEnvelope) : AgentProjectionGroup :=
  if renderableAgentBlock block then
    match block.payload with
    | .agentPlan .. => .none
    | .agentToolCall .. => .activity
    | .message role _ _ => if role = .thought then .activity else .single
    | _ => .single
  else .none

/-- Blocks that share a block of the view, each with its place in the document. -/
def agentGroups : List (BlockEnvelope × Nat) → List (List (BlockEnvelope × Nat))
  | [] => []
  | entry :: entries =>
      match agentProjectionGroup entry.1 with
      | .none => agentGroups entries
      | .single => [entry] :: agentGroups entries
      | .activity =>
          match agentGroups entries with
          | (next :: group) :: groups =>
              if agentProjectionGroup next.1 = .activity then (entry :: next :: group) :: groups
              else [entry] :: (next :: group) :: groups
          | groups => [entry] :: groups

/-- The last blocks of the view that there is room for. -/
def shownGroups (blocks : List BlockEnvelope) : List (List (BlockEnvelope × Nat)) :=
  (agentGroups blocks.zipIdx).drop ((agentGroups blocks.zipIdx).length - maxAgentBlocks)

section View

-- `std.hash.Wyhash` of a text, without its highest bit
variable (wyhash : String → Nat)

def stableAgentBlockId (blockId : BlockId) (index : Nat) : Nat :=
  if wyhash blockId.uuid.text = 0 then index + 1 else wyhash blockId.uuid.text

end View

/-- The text by which an operation's kind is labelled. -/
def OperationKind.isFileEdit : OperationKind → Bool
  | .fileEdit => true
  | .other name => name = "file_edit" || name = "Workspace edit"
  | _ => false

/-- The operation that an approval is about. -/
def approvedOperation (blocks : List BlockEnvelope) (operationId : OperationId) : Option BlockEnvelope :=
  blocks.find? fun block => renderableAgentBlock block &&
    match block.payload with
    | .operation id _ _ _ _ _ => id = operationId
    | _ => false

def projectApprovalBlock (blocks : List BlockEnvelope) (view : AgentBlockView) (block : BlockEnvelope)
    (operationId : OperationId) (prompt : String) : AgentBlockView :=
  let operation := approvedOperation blocks operationId
  let text :=
    match operation.map BlockEnvelope.payload with
    | some (.operation _ kind summary risk _ _) =>
        if risk = .workspaceWrite ∧ OperationKind.isFileEdit kind then summary else prompt
    | _ => prompt
  AgentBlockView.copyContent { view with kind := .approval, source := some block, operation } text

/-- What a block adds to the block of the view that shows it. -/
def projectAgentBlock (blocks : List BlockEnvelope) (view : AgentBlockView) (block : BlockEnvelope) : AgentBlockView :=
  match block.payload with
  | .message role text _ =>
      if role = .thought then
        let separated := if view.content = "" then view else view.appendContent "\n\n"
        AgentBlockView.appendContent { separated with kind := .toolCall, role := .thought, hasReasoning := true }
          (visibleAgentMessageText text)
      else AgentBlockView.copyContent { view with kind := .message, role } (visibleAgentMessageText text)
  | .operation _ _ summary _ _ _ =>
      AgentBlockView.copyContent { view with kind := .operation, source := some block } summary
  | .approval operationId _ _ prompt _ _ => projectApprovalBlock blocks view block operationId prompt
  | .agentToolCall _ call => appendAgentToolCall view call
  | _ => view

section View

variable (wyhash : String → Nat)

def blankView : List (BlockEnvelope × Nat) → AgentBlockView
  | [] => { id := 0 }
  | entry :: _ => { id := stableAgentBlockId wyhash entry.1.blockId entry.2 }

def projectAgentGroup (blocks : List BlockEnvelope) (group : List (BlockEnvelope × Nat)) : AgentBlockView :=
  group.foldl (fun view entry => projectAgentBlock blocks view entry.1) (blankView wyhash group)

def validSha256 (value : String) : Bool :=
  value.length = 64 && value.toList.all fun c => c.isDigit || ('a' ≤ c && c ≤ 'f')

/-- An artifact that the client can show. -/
def genUiArtifact (block : BlockEnvelope) : Option AcceptedGenUiArtifact :=
  match block.kind, block.payload with
  | .artifact, .artifact artifact =>
      if block.trustClass = .isolatedArtifact ∧ artifact.sourceRevision > 0 ∧ artifact.entrypoint ≠ "" ∧
          artifact.compiler.name ≠ "" ∧ artifact.compiler.version ≠ "" ∧ validSha256 artifact.contentDigest then
        some artifact
      else none
  | _, _ => none

def agentPlan (block : BlockEnvelope) : Option (List AgentPlanEntry) :=
  match block.payload with
  | .agentPlan _ entries => if renderableAgentBlock block then some entries else none
  | _ => none

/-- What is shown of a document; which blocks are expanded is the user's. -/
structure AgentProjection where
  blocks : List AgentBlockView := []
  /-- How many blocks of the view are left out in front. -/
  indexBase : Nat := 0
  plan : Option (List AgentPlanEntry) := none
  artifact : Option AcceptedGenUiArtifact := none
  deriving DecidableEq

def projectAgentBlocks (blocks : List BlockEnvelope) : AgentProjection where
  blocks := (shownGroups blocks).map (projectAgentGroup wyhash blocks)
  indexBase := (agentGroups blocks.zipIdx).length - maxAgentBlocks
  plan := (blocks.filterMap agentPlan).getLast?
  artifact := (blocks.filterMap genUiArtifact).getLast?

/-! ## Appending -/

/-- The block of the view that takes text for a message: `findAgentAppendTarget` finds the first. -/
def isAppendTarget (blockId : BlockId) (view : AgentBlockView) : Bool :=
  view.id = stableAgentBlockId wyhash blockId 0 &&
    (view.kind = .message || (view.kind = .toolCall && view.hasReasoning && view.calls = []))

def findAgentAppendTarget (views : List AgentBlockView) (blockId : BlockId) : Option AgentBlockView :=
  views.find? (isAppendTarget wyhash blockId)

def appendAgentBlockContent (views : List AgentBlockView) (blockId : BlockId) (text : String) : List AgentBlockView :=
  updateFirst (isAppendTarget wyhash blockId) (fun view => view.appendContent text) views

/-- The text of a message that a block of the view shows alone only grows, and what is appended is cut off where the whole
message is. -/
def Grows (message text : String) : Prop :=
  visibleAgentMessageText (message ++ text) = visibleAgentMessageText message ++ text ∧
    ((visibleAgentMessageText message).utf8ByteSize ≤ maxBlockBytes ∨
      utf8Bounded (maxBlockBytes - (utf8Bounded maxBlockBytes (visibleAgentMessageText message)).utf8ByteSize) text = "")

/-- The block of the view that takes text for a message shows this message, and it alone. -/
def ShowsAppend (blocks : List BlockEnvelope) (blockId : BlockId) (text : String) : Prop :=
  ∀ group ∈ (shownGroups blocks).find? fun group => isAppendTarget wyhash blockId (projectAgentGroup wyhash blocks group),
    ∃ block index role message external, group = [(block, index)] ∧ block.blockId = blockId ∧
      block.payload = .message role message external ∧ Grows message text

end View

/-! ## A message that grows -/

/-- A document's block, after text has been appended to the message with this id. -/
def growMessage (blockId : BlockId) (text : String) (documentRevision : Nat) (block : BlockEnvelope) : BlockEnvelope :=
  match block.payload with
  | .message role existing external =>
      if block.blockId = blockId then
        { block with
          payload := .message role (existing ++ text) external
          blockRevision := block.blockRevision + 1
          documentRevision }
      else block
  | _ => block

section Grow

variable {wyhash : String → Nat} {blockId : BlockId} {text : String} {documentRevision : Nat} {block : BlockEnvelope}

theorem growMessage_of_ne (h : block.blockId ≠ blockId) : growMessage blockId text documentRevision block = block := by
  unfold growMessage
  split
  · exact if_neg h
  · rfl

theorem growMessage_message {role : MessageRole} {existing : String} {external : Option String}
    (hpayload : block.payload = .message role existing external) (h : block.blockId = blockId) :
    growMessage blockId text documentRevision block =
      { block with
        payload := .message role (existing ++ text) external
        blockRevision := block.blockRevision + 1
        documentRevision } := by
  unfold growMessage
  rw [hpayload]
  exact if_pos h

/-- Only messages change. -/
theorem growMessage_cases (blockId : BlockId) (text : String) (documentRevision : Nat) (block : BlockEnvelope) :
    growMessage blockId text documentRevision block = block ∨
      ∃ role existing external, block.blockId = blockId ∧ block.payload = .message role existing external := by
  unfold growMessage
  split
  · next role existing external hpayload =>
      by_cases h : block.blockId = blockId
      · exact Or.inr ⟨role, existing, external, h, hpayload⟩
      · exact Or.inl (if_neg h)
  · exact Or.inl rfl

theorem agentPlan_growMessage : agentPlan (growMessage blockId text documentRevision block) = agentPlan block := by
  obtain h | ⟨role, existing, external, hid, hpayload⟩ := growMessage_cases blockId text documentRevision block
  · rw [h]
  · rw [growMessage_message hpayload hid]
    unfold agentPlan
    rw [hpayload]

theorem genUiArtifact_growMessage :
    genUiArtifact (growMessage blockId text documentRevision block) = genUiArtifact block := by
  obtain h | ⟨role, existing, external, hid, hpayload⟩ := growMessage_cases blockId text documentRevision block
  · rw [h]
  · rw [growMessage_message hpayload hid]
    unfold genUiArtifact
    rw [hpayload]
    cases block.kind <;> rfl

theorem approvedOperation_growMessage (blocks : List BlockEnvelope) (operationId : OperationId) :
    approvedOperation (blocks.map (growMessage blockId text documentRevision)) operationId =
      approvedOperation blocks operationId := by
  unfold approvedOperation
  induction blocks with
  | nil => rfl
  | cons block blocks ih =>
      rw [List.map_cons, List.find?_cons, List.find?_cons, ih]
      obtain h | ⟨role, existing, external, hid, hpayload⟩ := growMessage_cases blockId text documentRevision block
      · rw [h]
      · rw [growMessage_message hpayload hid]
        simp only [hpayload, Bool.and_false]

/-- A block that stays visible stays in its group. -/
theorem agentProjectionGroup_growMessage
    (h : ∀ existing external, block.blockId = blockId → block.payload = .message .agent existing external →
      (visibleAgentMessageText (existing ++ text) ≠ "" ↔ visibleAgentMessageText existing ≠ "")) :
    agentProjectionGroup (growMessage blockId text documentRevision block) = agentProjectionGroup block := by
  obtain hsame | ⟨role, existing, external, hid, hpayload⟩ := growMessage_cases blockId text documentRevision block
  · rw [hsame]
  · have hrenders : renderableAgentBlock (growMessage blockId text documentRevision block) = renderableAgentBlock block := by
      rw [growMessage_message hpayload hid]
      unfold renderableAgentBlock
      rw [hpayload]
      cases block.kind with
      | message =>
          cases role with
          | agent => simp only [h existing external hid hpayload]
          | user | system | thought => rfl
      | _ => rfl
    unfold agentProjectionGroup
    rw [hrenders, growMessage_message hpayload hid, hpayload]

end Grow

/-! ## Groups -/

/-- A group has blocks that are shown, and no block is in two groups, or twice in one. -/
theorem agentGroups_sublist (entries : List (BlockEnvelope × Nat)) :
    (agentGroups entries).flatten.Sublist (entries.filter fun entry => agentProjectionGroup entry.1 ≠ .none) := by
  induction entries with
  | nil => exact List.Sublist.slnil
  | cons entry entries ih =>
      unfold agentGroups
      rw [List.filter_cons]
      cases agentProjectionGroup entry.1 with
      | none => exact ih
      | single => exact ih.cons_cons entry
      | activity =>
          cases hgroups : agentGroups entries with
          | nil => exact (List.nil_sublist _).cons_cons entry
          | cons group groups =>
              rw [hgroups] at ih
              cases group with
              | nil => exact ih.cons_cons entry
              | cons next group =>
                  dsimp only
                  split
                  · exact ih.cons_cons entry
                  · exact ih.cons_cons entry

theorem mem_of_mem_agentGroups {entries group : List (BlockEnvelope × Nat)} (hgroup : group ∈ agentGroups entries)
    {entry : BlockEnvelope × Nat} (h : entry ∈ group) : entry ∈ entries ∧ agentProjectionGroup entry.1 ≠ .none := by
  have hmem := (agentGroups_sublist entries).subset (List.mem_flatten_of_mem hgroup h)
  exact ⟨(List.mem_filter.mp hmem).1, of_decide_eq_true (List.mem_filter.mp hmem).2⟩

/-- A change that leaves every block in its group leaves the groups. -/
theorem agentGroups_map {f : BlockEnvelope → BlockEnvelope} {entries : List (BlockEnvelope × Nat)}
    (h : ∀ entry ∈ entries, agentProjectionGroup (f entry.1) = agentProjectionGroup entry.1) :
    agentGroups (entries.map (Prod.map f id)) = (agentGroups entries).map (List.map (Prod.map f id)) := by
  induction entries with
  | nil => rfl
  | cons entry entries ih =>
      have hmap := ih fun e he => h e (List.mem_cons_of_mem entry he)
      have hhead := h entry List.mem_cons_self
      rw [List.map_cons]
      unfold agentGroups
      rw [show (Prod.map f id entry).1 = f entry.1 from rfl, hhead, hmap]
      cases agentProjectionGroup entry.1 with
      | none => rfl
      | single => rfl
      | activity =>
          cases hgroups : agentGroups entries with
          | nil => rfl
          | cons group groups =>
              cases group with
              | nil => rfl
              | cons next group =>
                  have hnext : agentProjectionGroup (f next.1) = agentProjectionGroup next.1 := by
                    refine h next (List.mem_cons_of_mem entry ?_)
                    exact (mem_of_mem_agentGroups (hgroups ▸ List.mem_cons_self) List.mem_cons_self).1
                  show (if agentProjectionGroup (f next.1) = .activity then _ else _) = _
                  rw [hnext]
                  dsimp only
                  split
                  · rfl
                  · rfl

section Append

variable {wyhash : String → Nat} {blocks : List BlockEnvelope} {blockId : BlockId} {text : String}
  {documentRevision : Nat}

theorem shownGroups_sublist (blocks : List BlockEnvelope) : (shownGroups blocks).flatten.Sublist blocks.zipIdx := by
  refine List.Sublist.trans ?_ ((agentGroups_sublist blocks.zipIdx).trans List.filter_sublist)
  unfold shownGroups
  generalize agentGroups blocks.zipIdx = groups
  generalize groups.length - maxAgentBlocks = skip
  have hsplit : (groups.take skip).flatten ++ (groups.drop skip).flatten = groups.flatten := by
    rw [← List.flatten_append, List.take_append_drop]
  exact hsplit ▸ List.sublist_append_right _ _

/-- The text of a view that takes all of what is appended. -/
theorem appendContent_copyContent {view : AgentBlockView} {message : String} (h : Grows message text) :
    (view.copyContent (visibleAgentMessageText message)).appendContent text =
      view.copyContent (visibleAgentMessageText (message ++ text)) := by
  obtain ⟨hvisible, hfits⟩ := h
  rw [hvisible]
  generalize visibleAgentMessageText message = visible at hfits
  unfold AgentBlockView.copyContent AgentBlockView.appendContent
  dsimp only
  by_cases hle : visible.utf8ByteSize ≤ maxBlockBytes
  · rw [utf8Bounded_of_le hle, utf8Bounded_append_of_le hle]
    simp only [String.utf8ByteSize_append, lt_self_iff_false, decide_false, Bool.false_or, Nat.add_lt_add_iff_left]
  · have hlt : maxBlockBytes < visible.utf8ByteSize := by omega
    have hbound := utf8ByteSize_utf8Bounded_le maxBlockBytes visible
    rw [hfits.resolve_left hle, utf8Bounded_append_of_lt hlt, String.append_empty]
    have hcut : (utf8Bounded maxBlockBytes visible).utf8ByteSize < visible.utf8ByteSize := by omega
    have hcut' : (utf8Bounded maxBlockBytes visible).utf8ByteSize < (visible ++ text).utf8ByteSize := by
      rw [String.utf8ByteSize_append]
      omega
    rw [decide_eq_true hcut, decide_eq_true hcut']
    rfl

theorem appendContent_blank {view : AgentBlockView} (hcontent : view.content = "") (htruncated : view.truncated = false)
    (text : String) : view.appendContent text = view.copyContent text := by
  unfold AgentBlockView.copyContent AgentBlockView.appendContent
  dsimp only
  rw [hcontent, htruncated, String.empty_append]
  rfl

/-- A block of the view that shows one message shows what is appended to it. -/
theorem projectAgentBlock_growMessage {view : AgentBlockView} (hcontent : view.content = "")
    (htruncated : view.truncated = false) {block : BlockEnvelope} {role : MessageRole} {message : String}
    {external : Option String} (hid : block.blockId = blockId) (hpayload : block.payload = .message role message external)
    (h : Grows message text) (blocks' : List BlockEnvelope) :
    projectAgentBlock blocks' view (growMessage blockId text documentRevision block) =
      (projectAgentBlock blocks view block).appendContent text := by
  rw [growMessage_message hpayload hid]
  unfold projectAgentBlock
  rw [hpayload]
  dsimp only
  by_cases hrole : role = .thought
  · have hblank (text' : String) :
        AgentBlockView.appendContent { view with kind := .toolCall, role := .thought, hasReasoning := true } text' =
          AgentBlockView.copyContent { view with kind := .toolCall, role := .thought, hasReasoning := true } text' :=
      @appendContent_blank { view with kind := .toolCall, role := .thought, hasReasoning := true } hcontent htruncated text'
    rw [if_pos hrole, if_pos hrole, if_pos hcontent, hblank, hblank, appendContent_copyContent h]
  · rw [if_neg hrole, if_neg hrole, appendContent_copyContent h]

theorem projectAgentBlock_congr {blocks blocks' : List BlockEnvelope}
    (h : ∀ operationId, approvedOperation blocks operationId = approvedOperation blocks' operationId)
    (view : AgentBlockView) (block : BlockEnvelope) :
    projectAgentBlock blocks view block = projectAgentBlock blocks' view block := by
  unfold projectAgentBlock projectApprovalBlock
  simp only [h]

theorem projectAgentGroup_congr {blocks blocks' : List BlockEnvelope}
    (h : ∀ operationId, approvedOperation blocks operationId = approvedOperation blocks' operationId)
    (group : List (BlockEnvelope × Nat)) :
    projectAgentGroup wyhash blocks group = projectAgentGroup wyhash blocks' group := by
  unfold projectAgentGroup
  simp only [projectAgentBlock_congr h]

theorem updateFirst_append_cons {α : Type} {p : α → Bool} {f : α → α} {l l' : List α} {a : α}
    (hl : ∀ b ∈ l, p b = false) (ha : p a = true) : updateFirst p f (l ++ a :: l') = l ++ f a :: l' := by
  induction l with
  | nil => exact if_pos ha
  | cons b l ih =>
      obtain ⟨hb, hl⟩ := List.forall_mem_cons.mp hl
      rw [List.cons_append, updateFirst, if_neg (by rw [hb]; decide), ih hl]
      rfl

theorem blocks_projectAgentBlocks (wyhash : String → Nat) (blocks : List BlockEnvelope) :
    (projectAgentBlocks wyhash blocks).blocks = (shownGroups blocks).map (projectAgentGroup wyhash blocks) := by
  simp only [projectAgentBlocks]

/-- A group without the message is as it was. -/
theorem map_growMessage_of_notMem {group : List (BlockEnvelope × Nat)} (h : ∀ entry ∈ group, entry.1.blockId ≠ blockId) :
    group.map (Prod.map (growMessage blockId text documentRevision) id) = group := by
  refine (List.map_congr_left fun entry he => ?_).trans (List.map_id group)
  exact Prod.ext (growMessage_of_ne (h entry he)) rfl

theorem mem_of_mem_zipIdx {entry : BlockEnvelope × Nat} (h : entry ∈ blocks.zipIdx) : entry.1 ∈ blocks :=
  List.mem_of_getElem? (List.mem_zipIdx_iff_getElem?.mp h)

/-- A message of the Agent is only shown where some of it is visible. -/
theorem visible_of_agentProjectionGroup {block : BlockEnvelope} {message : String} {external : Option String}
    (hpayload : block.payload = .message .agent message external) (h : agentProjectionGroup block ≠ .none) :
    visibleAgentMessageText message ≠ "" := by
  intro hblank
  have hrenders : renderableAgentBlock block = false := by
    unfold renderableAgentBlock
    rw [hpayload]
    cases block.kind with
    | message => simp only [hblank, ne_eq, not_true_eq_false, decide_false, Bool.or_false]
    | _ => rfl
  apply h
  unfold agentProjectionGroup
  rw [hrenders]
  rfl

/-- **A message that grows.** Where the block of the view that takes the text shows this message alone and in full, the
view of the document is the view before with the text appended. -/
theorem projectAgentBlocks_append (hnodup : (blocks.map BlockEnvelope.blockId).Nodup)
    (hshows : ShowsAppend wyhash blocks blockId text)
    (htarget : (findAgentAppendTarget wyhash (projectAgentBlocks wyhash blocks).blocks blockId).isSome) :
    projectAgentBlocks wyhash (blocks.map (growMessage blockId text documentRevision)) =
      { projectAgentBlocks wyhash blocks with
        blocks := appendAgentBlockContent wyhash (projectAgentBlocks wyhash blocks).blocks blockId text } := by
  -- the group that takes the text
  obtain ⟨view, hview⟩ := Option.isSome_iff_exists.mp htarget
  unfold findAgentAppendTarget at hview
  rw [blocks_projectAgentBlocks, List.find?_map, Option.map_eq_some_iff] at hview
  obtain ⟨group, hfind, -⟩ := hview
  obtain ⟨block, index, role, message, external, hgroup, hid, hpayload, hgrows⟩ := hshows group hfind
  obtain ⟨hhit, before, after, hsplit, hmiss⟩ := List.find?_eq_some_iff_append.mp hfind
  subst hgroup
  -- it is the only one with the message
  have hids : ((shownGroups blocks).flatten.map (BlockEnvelope.blockId ∘ Prod.fst)).Nodup := by
    have hall : blocks.zipIdx.map (BlockEnvelope.blockId ∘ Prod.fst) = blocks.map BlockEnvelope.blockId := by
      rw [← List.map_map, List.zipIdx_map_fst]
    exact (hall ▸ hnodup : (blocks.zipIdx.map (BlockEnvelope.blockId ∘ Prod.fst)).Nodup).sublist
      ((shownGroups_sublist blocks).map _)
  rw [hsplit, List.flatten_append, List.flatten_cons, List.singleton_append, List.map_append, List.map_cons,
    List.nodup_middle, List.nodup_cons, ← List.map_append, ← List.flatten_append] at hids
  have hother : ∀ group ∈ before ++ after,
      group.map (Prod.map (growMessage blockId text documentRevision) id) = group := fun group hgroup =>
    map_growMessage_of_notMem fun entry he heq =>
      hids.1 (List.mem_map.mpr ⟨entry, List.mem_flatten_of_mem hgroup he, heq.trans hid.symm⟩)
  -- the message stays where it is
  have hmem : [(block, index)] ∈ agentGroups blocks.zipIdx :=
    List.mem_of_mem_drop (hsplit ▸ List.mem_append_right before List.mem_cons_self)
  obtain ⟨hblock, hrendered⟩ := mem_of_mem_agentGroups hmem (List.mem_singleton_self _)
  have hgroups : agentGroups (blocks.map (growMessage blockId text documentRevision)).zipIdx =
      (agentGroups blocks.zipIdx).map (List.map (Prod.map (growMessage blockId text documentRevision) id)) := by
    rw [List.zipIdx_map]
    refine agentGroups_map fun entry he => agentProjectionGroup_growMessage ?_
    intro existing external' heid hepayload
    have hsame : entry.1 = block :=
      List.inj_on_of_nodup_map hnodup (mem_of_mem_zipIdx he) (mem_of_mem_zipIdx hblock) (heid.trans hid.symm)
    rw [hsame] at hepayload
    obtain ⟨rfl, rfl, rfl⟩ := BlockPayload.message.inj (hepayload.symm.trans hpayload)
    have hbefore := visible_of_agentProjectionGroup hpayload hrendered
    rw [hgrows.1, ne_eq, ne_eq, String.append_eq_empty_iff, not_and]
    exact ⟨fun _ => hbefore, fun _ hblank => absurd hblank hbefore⟩
  have hshown : shownGroups (blocks.map (growMessage blockId text documentRevision)) =
      before ++ [(growMessage blockId text documentRevision block, index)] :: after := by
    unfold shownGroups
    rw [hgroups, List.length_map, ← List.map_drop]
    show (shownGroups blocks).map _ = _
    rw [hsplit, List.map_append, List.map_cons]
    have hbefore := List.map_congr_left fun group hgroup => hother group (List.mem_append_left after hgroup)
    have hafter := List.map_congr_left fun group hgroup => hother group (List.mem_append_right before hgroup)
    rw [hbefore, hafter, List.map_id', List.map_id']
    rfl
  -- and so does all else
  have hoperation := @approvedOperation_growMessage blockId text documentRevision blocks
  have happended : projectAgentGroup wyhash (blocks.map (growMessage blockId text documentRevision))
      [(growMessage blockId text documentRevision block, index)] =
        (projectAgentGroup wyhash blocks [(block, index)]).appendContent text := by
    have hblank : blankView wyhash [(growMessage blockId text documentRevision block, index)] =
        blankView wyhash [(block, index)] := by
      unfold blankView
      rw [growMessage_message hpayload hid]
    unfold projectAgentGroup
    rw [hblank]
    exact projectAgentBlock_growMessage rfl rfl hid hpayload hgrows _
  have hviews : (projectAgentBlocks wyhash (blocks.map (growMessage blockId text documentRevision))).blocks =
      appendAgentBlockContent wyhash (projectAgentBlocks wyhash blocks).blocks blockId text := by
    rw [blocks_projectAgentBlocks, blocks_projectAgentBlocks, hshown, hsplit, List.map_append, List.map_cons,
      List.map_append, List.map_cons, happended]
    have htake : isAppendTarget wyhash blockId (projectAgentGroup wyhash blocks [(block, index)]) = true := hhit
    unfold appendAgentBlockContent
    rw [updateFirst_append_cons _ htake]
    · have hsame : projectAgentGroup wyhash (blocks.map (growMessage blockId text documentRevision)) =
          projectAgentGroup wyhash blocks := funext fun group => projectAgentGroup_congr hoperation group
      rw [hsame]
    · intro view hview
      obtain ⟨group, hgroup, rfl⟩ := List.mem_map.mp hview
      exact Bool.eq_false_of_not_eq_true' (hmiss group hgroup)
  unfold projectAgentBlocks at hviews ⊢
  dsimp only at hviews ⊢
  rw [hviews, hgroups, List.length_map, List.filterMap_map, List.filterMap_map]
  have hplan : agentPlan ∘ growMessage blockId text documentRevision = agentPlan := funext fun _ => agentPlan_growMessage
  have hartifact : genUiArtifact ∘ growMessage blockId text documentRevision = genUiArtifact :=
    funext fun _ => genUiArtifact_growMessage
  rw [hplan, hartifact]

end Append

end HyperTerm.Desktop
