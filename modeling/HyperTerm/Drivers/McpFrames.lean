import HyperTerm.Drivers.McpHistory

/-!
# The frames of an MCP server

A response must fit a frame of the transport. What the server answers of its own does, whatever the identifier of the
request is (`receive_cases_of_size`); a call that it proposes, or refuses for its arguments, is `CallsTool`.
-/

namespace HyperTerm.Drivers
open HyperTerm.Protocol HyperTerm.Lib

def Fits (response : Value) : Prop := response.size ≤ maxMcpFrameBytes

/-! ## Sizes -/

theorem utf8ByteSize_ofList (l : List Char) : (String.ofList l).utf8ByteSize = (l.map Char.utf8Size).sum := by
  induction l with
  | nil => rfl
  | cons c l ih =>
      rw [String.ofList_cons, String.utf8ByteSize_append, String.utf8ByteSize_singleton, ih, List.map_cons,
        List.sum_cons]

/-- An escaped byte takes at most six bytes. -/
theorem jsonStringSize_le (s : String) : jsonStringSize s ≤ 2 + 6 * s.utf8ByteSize := by
  have hsum : (s.toList.map escapedSize).sum ≤ 6 * (s.toList.map Char.utf8Size).sum := by
    induction s.toList with
    | nil => exact le_refl _
    | cons c l ih =>
        rw [List.map_cons, List.sum_cons, List.map_cons, List.sum_cons, Nat.mul_add]
        exact Nat.add_le_add (escapedSize_le c) ih
  rw [← utf8ByteSize_ofList, String.ofList_toList] at hsum
  exact Nat.add_le_add_left hsum 2

/-- What the identifier of a request takes at most. -/
def maxIdSize : Nat := 2 + 6 * 512

theorem rpcId_size {v : Option Value} {id : ExternalRequestId} (h : rpcId v = some id) :
    (rpcIdValue id).size ≤ maxIdSize := by
  unfold rpcId at h
  split at h
  · split_ifs at h with hshort
    obtain rfl := Option.some.inj h
    exact (jsonStringSize_le _).trans (by unfold maxIdSize; omega)
  · rename_i n
    have hsize : n.isI64 = true ∨ n.isU64 = true → n.size ≤ maxIdSize := by
      intro hint
      cases n with
      | unsigned n => exact (decimalSize_le (k := 20) (by decide) (by omega)).trans (by decide)
      | negative n =>
          have hdecimal := decimalSize_le (n := n.val + 1) (k := 20) (by decide) (by omega)
          show 1 + decimalSize (n.val + 1) ≤ maxIdSize
          unfold maxIdSize
          omega
      | float text => rcases hint with hint | hint <;> cases hint
    split_ifs at h with hsigned hunsigned
    · obtain rfl := Option.some.inj h
      exact hsize (Or.inl hsigned)
    · obtain rfl := Option.some.inj h
      exact hsize (Or.inr hunsigned)
  · cases h

theorem rpcResult_size (id : ExternalRequestId) (x : Value) :
    (rpcResult id x).size = (rpcIdValue id).size + x.size + 33 := by
  have h₁ : jsonStringSize "id" = 4 := by decide
  have h₂ : jsonStringSize "jsonrpc" = 9 := by decide
  have h₃ : jsonStringSize "2.0" = 5 := by decide
  have h₄ : jsonStringSize "result" = 8 := by decide
  simp only [rpcResult, Value.size, membersSize, List.length, h₁, h₂, h₃, h₄]
  omega

theorem rpcError_size (id : ExternalRequestId) (code : Fin (2 ^ 63)) (message : String) :
    (rpcError id code message).size ≤ (rpcIdValue id).size + jsonStringSize message + 75 := by
  have h₁ : jsonStringSize "id" = 4 := by decide
  have h₂ : jsonStringSize "jsonrpc" = 9 := by decide
  have h₃ : jsonStringSize "2.0" = 5 := by decide
  have h₄ : jsonStringSize "error" = 7 := by decide
  have h₅ : jsonStringSize "code" = 6 := by decide
  have h₆ : jsonStringSize "message" = 9 := by decide
  have hcode := decimalSize_le (n := code.val + 1) (k := 20) (by decide) (by omega)
  simp only [rpcError, Value.size, Number.size, membersSize, List.length, h₁, h₂, h₃, h₄, h₅, h₆]
  omega

theorem toolResultValue_size (id : ExternalRequestId) (text : String) :
    (toolResultValue id ⟨text, none, true⟩).size = (rpcIdValue id).size + jsonStringSize text + 85 := by
  have h₁ : jsonStringSize "content" = 9 := by decide
  have h₂ : jsonStringSize "text" = 6 := by decide
  have h₃ : jsonStringSize "type" = 6 := by decide
  have h₄ : jsonStringSize "isError" = 9 := by decide
  have hpayload : (Value.object
      ([("content", .array [.object [("text", .string text), ("type", .string "text")]]),
        ("isError", .bool true)] ++ [])).size = jsonStringSize text + 52 := by
    simp only [List.append_nil, Value.size, membersSize, itemsSize, List.length, h₁, h₂, h₃, h₄, if_true]
    omega
  rw [toolResultValue, rpcResult_size]
  show _ + Value.size (.object (_ ++ [])) + 33 = _
  rw [hpayload]
  omega

/-! ## What the server answers of its own -/

variable {sha256 : Value → String} {server : McpAgentServer} {id : ExternalRequestId}

theorem fits_rpcError {v : Option Value} (hid : rpcId v = some id) (code : Fin (2 ^ 63)) {message : String}
    {chars : List Char} (h : message = String.ofList chars) (hlength : chars.length ≤ 160) :
    Fits (rpcError id code message) := by
  have hsize := rpcError_size id code message
  have hmessage := jsonStringSize_le_of_eq h
  have hidSize := rpcId_size hid
  unfold Fits maxMcpFrameBytes
  unfold maxIdSize at hidSize
  omega

theorem fits_rpcResult {v : Option Value} (hid : rpcId v = some id) {x : Value} (h : x.size ≤ 100000) :
    Fits (rpcResult id x) := by
  have hidSize := rpcId_size hid
  unfold Fits
  rw [rpcResult_size]
  unfold maxMcpFrameBytes
  unfold maxIdSize at hidSize
  omega

theorem itemsSize_le_of_sublist {items items' : List Value} (h : items.Sublist items') :
    itemsSize items ≤ itemsSize items' := by
  induction h with
  | slnil => exact le_refl _
  | cons v _ ih => exact ih.trans (Nat.le_add_left _ _)
  | cons_cons v _ ih => exact Nat.add_le_add_left ih v.size

/-- Every text of the catalog is counted by its characters. -/
theorem itemsSize_definitions :
    itemsSize [genUiCompileDefinition, denoLspQueryDefinition, diffReviewDefinition] ≤ 90000 := by
  apply Nat.le_trans
  · simp only [genUiCompileDefinition, denoLspQueryDefinition, diffReviewDefinition, toolDefinition, objectSchema,
      boundedStringSchema, lspMethods, List.map, Option.map, Option.toList, List.cons_append, List.nil_append]
    repeat' first
      | with_reducible apply jsonStringSize_append_le
      | with_reducible apply jsonStringSize_le_of_eq
        exact rfl
      | with_reducible apply size_string_le
      | with_reducible apply size_array_le
      | with_reducible apply size_object_le
      | with_reducible apply itemsSize_cons_le
      | with_reducible apply membersSize_cons_le
      | with_reducible exact Nat.le_refl _
  · decide

theorem initialized_size : (Value.object
    [("capabilities", .object [("tools", .object [("listChanged", .bool false)])]),
      ("instructions", .string ("All tool calls are proposals. Hyper Term executes them only after " ++
        "Rust-owned policy and permission checks.")),
      ("protocolVersion", .string mcpProtocolVersion),
      ("serverInfo", .object
        [("description", .string "Brokered GenUI, Deno LSP, and diff proposals for Agent mode"),
          ("name", .string "hyper-term"), ("title", .string "Hyper Term Agent Tools"),
          ("version", .string "0.1.0")])]).size ≤ 100000 := by
  apply Nat.le_trans
  · repeat' first
      | with_reducible apply jsonStringSize_append_le
      | with_reducible apply jsonStringSize_le_of_eq
        exact rfl
      | with_reducible apply size_string_le
      | with_reducible apply size_object_le
      | with_reducible apply membersSize_cons_le
      | with_reducible exact Nat.le_refl _
  · decide

/-- The catalog is part of the catalog of all tools. -/
theorem toolDefinitions_size (enabled : List McpToolClass) :
    (Value.object [("tools", .array (toolDefinitions enabled))]).size ≤ 100000 := by
  have hsub : (toolDefinitions enabled).Sublist
      [genUiCompileDefinition, denoLspQueryDefinition, diffReviewDefinition] := List.filter_sublist.map Prod.snd
  have hkey : jsonStringSize "tools" = 7 := by decide
  have hitems := itemsSize_le_of_sublist hsub
  have hall := itemsSize_definitions
  have hlength : (toolDefinitions enabled).length ≤ 3 := hsub.length_le
  simp only [Value.size, membersSize, List.length_singleton, hkey]
  omega

namespace McpAgentServer

/-- The message is answered at once, in a frame, or not at all. -/
def Settled (server : McpAgentServer) (r : Received) : Prop :=
  r.1.pending = server.pending ∧
    (r.2 = .ok none ∨ ∃ response, r.2 = .ok (some (.response response)) ∧ Fits response)

theorem settled_answer {response : Value} (h : Fits response) : server.Settled (server.answer response) :=
  ⟨rfl, Or.inr ⟨response, rfl, h⟩⟩

theorem settled_none : server.Settled (server, .ok none) := ⟨rfl, Or.inl rfl⟩

theorem settled_notReady {v : Option Value} (hid : rpcId v = some id) :
    server.Settled (server, .ok (some (notReady id))) :=
  settled_answer (fits_rpcError hid _ rfl (by decide))

theorem settled_map (v : Option Value) {response : ExternalRequestId → Value}
    (h : ∀ id, rpcId v = some id → Fits (response id)) :
    server.Settled (server, .ok ((rpcId v).map fun id => .response (response id))) := by
  cases hid : rpcId v with
  | none => exact settled_none
  | some id => exact settled_answer (h id hid)

theorem settled_onInitialize (v : Option Value) (params : Option Value) :
    server.Settled (server.onInitialize (rpcId v) params) := by
  unfold onInitialize
  split
  · exact settled_none
  · rename_i id hid
    split_ifs
    · exact settled_answer (fits_rpcError hid _ rfl (by decide))
    · exact settled_answer (fits_rpcError hid _ rfl (by decide))
    · exact ⟨rfl, Or.inr ⟨_, rfl, fits_rpcResult hid initialized_size⟩⟩

theorem settled_markInitialized (v : Option Value) : server.Settled (server.markInitialized (rpcId v)) := by
  unfold markInitialized
  split
  · rename_i id hid
    exact settled_answer (fits_rpcError hid _ rfl (by decide))
  · split_ifs
    · exact settled_none
    · exact ⟨rfl, Or.inl rfl⟩

theorem settled_listTools (v : Option Value) (params : Option Value) :
    server.Settled (server.listTools (rpcId v) params) := by
  unfold listTools
  split
  · exact settled_none
  · rename_i id hid
    split_ifs
    · exact settled_notReady hid
    · exact settled_answer (fits_rpcError hid _ rfl (by decide))
    · exact settled_answer (fits_rpcResult hid (toolDefinitions_size _))

theorem settled_emptyInventory (v : Option Value) {field : String} {chars : List Char}
    (h : field = String.ofList chars) (hlength : chars.length ≤ 160) :
    server.Settled (server.emptyInventory (rpcId v) field) := by
  have hfield := jsonStringSize_le_of_eq h
  unfold emptyInventory
  split
  · exact settled_none
  · rename_i id hid
    split_ifs
    · exact settled_notReady hid
    · refine settled_answer (fits_rpcResult hid ?_)
      simp only [Value.size, membersSize, itemsSize, List.length]
      omega

/-- The message calls a tool of the session, with arguments that are an object. -/
structure CallsTool (server : McpAgentServer) (message : Value) (id : ExternalRequestId) (profile : ToolProfile)
    (name : String) (arguments : Value) : Prop where
  version : (message.get "jsonrpc").bind Value.asStr = some "2.0"
  method : (message.get "method").bind Value.asStr = some "tools/call"
  requestId : rpcId (message.get "id") = some id
  ready : server.lifecycle = .ready
  named : ((message.get "params").bind (Value.get "name")).bind Value.asStr = some name
  offered : toolProfile name = some profile
  enabled : profile.toolClass ∈ server.enabledTools
  given : arguments = ((message.get "params").bind (Value.get "arguments")).getD (.object [])
  object : arguments.isObject = true

theorem callTool_settled_or {message : Value} (hversion : (message.get "jsonrpc").bind Value.asStr = some "2.0")
    (hmethod : (message.get "method").bind Value.asStr = some "tools/call") :
    (∃ id profile name arguments, server.CallsTool message id profile name arguments ∧
      server.callTool sha256 (rpcId (message.get "id")) (message.get "params") =
        proposeCall sha256 server id profile name arguments) ∨
      server.Settled (server.callTool sha256 (rpcId (message.get "id")) (message.get "params")) := by
  unfold callTool
  cases hid : rpcId (message.get "id") with
  | none => exact Or.inr settled_none
  | some id =>
      dsimp only
      by_cases hready : server.lifecycle = .ready
      · rw [if_neg (not_not.mpr hready)]
        cases hparams : message.get "params" with
        | none => exact Or.inr (settled_answer (fits_rpcError hid _ rfl (by decide)))
        | some params =>
            cases hname : (params.get "name").bind Value.asStr with
            | none =>
                simp only [hname]
                exact Or.inr (settled_answer (fits_rpcError hid _ rfl (by decide)))
            | some name =>
                cases hprofile : toolProfile name with
                | none =>
                    simp only [hname, hprofile]
                    exact Or.inr (settled_answer (fits_rpcError hid _ rfl (by decide)))
                | some profile =>
                    simp only [hname, hprofile]
                    split
                    case isTrue => exact Or.inr (settled_answer (fits_rpcError hid _ rfl (by decide)))
                    case isFalse henabled =>
                      split
                      case isTrue => exact Or.inr (settled_answer (fits_rpcError hid _ rfl (by decide)))
                      case isFalse hobject =>
                        refine Or.inl ⟨id, profile, name, _, ⟨hversion, hmethod, hid, hready, ?_, hprofile,
                          not_not.mp henabled, ?_, Bool.not_eq_false _ ▸ hobject⟩, rfl⟩
                        · rw [hparams]
                          exact hname
                        · rw [hparams]
                          rfl
      · rw [if_pos hready]
        exact Or.inr (settled_notReady hid)

/-- A message that fits a frame calls a tool, or its response fits one. -/
theorem receive_cases_of_size (sha256 : Value → String) {message : Value} (hsize : message.size ≤ maxMcpFrameBytes) :
    (∃ id profile name arguments, server.CallsTool message id profile name arguments ∧
      server.receive sha256 message = proposeCall sha256 server id profile name arguments) ∨
      server.Settled (server.receive sha256 message) := by
  unfold receive ensureSize
  rw [if_neg (not_lt.mpr hsize)]
  dsimp only
  split
  case isTrue => exact Or.inr (settled_map _ fun id hid => fits_rpcError hid _ rfl (by decide))
  case isFalse hversion =>
    split
    case h_1 => exact Or.inr (settled_map _ fun id hid => fits_rpcError hid _ rfl (by decide))
    case h_2 method hmethod =>
      split_ifs with h₁ h₂ h₃ h₄ h₅ h₆ h₇
      · exact Or.inr (settled_onInitialize _ _)
      · exact Or.inr (settled_markInitialized _)
      · exact Or.inr (settled_map _ fun id hid => fits_rpcResult hid (by decide))
      · exact Or.inr (settled_listTools _ _)
      · exact callTool_settled_or (not_not.mp hversion) (h₅ ▸ hmethod)
      · exact Or.inr (settled_emptyInventory _ rfl (by decide))
      · exact Or.inr (settled_emptyInventory _ rfl (by decide))
      · exact Or.inr (settled_map _ fun id hid => fits_rpcError hid _ rfl (by decide))

end McpAgentServer

end HyperTerm.Drivers
