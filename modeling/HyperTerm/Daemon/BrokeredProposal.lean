import HyperTerm.Daemon.BrokeredMcp
import HyperTerm.Lib.CharBoundary
import HyperTerm.Protocol.CanonicalJson
import HyperTerm.Protocol.PrettyJson

/-!
# Proposals of brokered tools

A call of a brokered tool is proposed with digests of what it is, and is executed only for a request that has the same.

* `proposeBrokeredMcpTool` : the operation that is proposed for a call;
* `BindingAccepts` : the request is bound, and the binding fits the action of the operation;
* `binding_accepts_iff` : this is so for the tool and the arguments of the proposal, up to the order of members.
-/

namespace HyperTerm.Daemon.Brokered
open HyperTerm.Protocol HyperTerm.Core HyperTerm.Drivers HyperTerm.Lib

def maxArgumentPreviewBytes : Nat := 192

/-- `validate_brokered_mcp_tool`. -/
def validateBrokeredMcpTool (name : String) (arguments : Value) : Except String McpToolClass := do
  let profile ← okOr (toolProfile name) "unknown Hyper Term tool"
  validateArguments profile.toolClass arguments
  .ok profile.toolClass

/-- The preview, the bytes of the arguments, and whether the preview was cut. -/
def boundedArgumentsPreview (toVec : Value → List UInt8) (arguments : Value) : Except DaemonError (String × Nat × Bool) :=
  let bytes := (toVec arguments).length
  let preview := arguments.pretty 0
  if 4294967295 < bytes then .error .invalidApprovalDetail
  else if (utf8 preview).length ≤ maxArgumentPreviewBytes then .ok (String.ofList preview, bytes, false)
  else
    let kept := (splitAtByte preview (boundaryBelow preview maxArgumentPreviewBytes)).map Prod.fst
    .ok (String.ofList (kept.getD [] ++ ['\n', '…']), bytes, true)

/-- What `propose_operation` is called with. -/
structure BrokeredMcpProposal where
  kind : OperationKind
  action : OperationAction
  summary : String
  risk : RiskClass
  requiredCapabilities : List String

def brokeredSummary : McpToolClass → String × List String
  | .genUiCompile =>
      ("Compile a bounded GenUI artifact with the supervised Deno runtime", ["artifact_build", "deno_runtime"])
  | .denoLspQuery =>
      ("Query the supervised Deno LSP against a workspace snapshot", ["workspace_snapshot_read", "deno_lsp"])
  | .diffReview => ("Build a read-only diff review artifact from bounded input", ["diff_review"])

/-- What is digested of a call. -/
def proposedCall (toolName : String) (arguments : Value) : Value :=
  .object [("arguments", arguments), ("name", .string toolName)]

section Propose

variable (toVec : Value → List UInt8) (sha256 : List UInt8 → String)

def proposeBrokeredMcpTool (toolName : String) (canonicalArguments : Value) : Except BrokeredError BrokeredMcpProposal := do
  let toolClass ← (validateBrokeredMcpTool toolName canonicalArguments).mapError fun _ => .bindingMismatch
  let preview ← (boundedArgumentsPreview toVec canonicalArguments).mapError .daemon
  let argumentsDigest := sha256 (canonicalMcpJsonBytes toVec canonicalArguments)
  if ¬isSha256 argumentsDigest then .error .bindingMismatch
  else
    .ok {
      kind := .mcpTool
      action := .brokeredMcpToolCall {
        schemaVersion := 1
        serverId := "hyper-term"
        toolName
        canonicalArgumentsPreview := preview.1
        argumentsBytes := preview.2.1
        argumentsTruncated := preview.2.2
        argumentsDigest
        proposalDigest := sha256 (canonicalMcpJsonBytes toVec (proposedCall toolName canonicalArguments)) }
      summary := (brokeredSummary toolClass).1
      risk := .readOnly
      requiredCapabilities := (brokeredSummary toolClass).2 }

def callDigests : CallDigests where
  canonicalJson v := .ok (canonicalMcpJsonBytes toVec v)
  sha256 := sha256

/-- The request is accepted for the action of an operation. -/
def BindingAccepts (toolName proposalDigest : String) (arguments : Value) (action : OperationAction) : Prop :=
  ∃ binding, BrokeredMcpBinding.new (callDigests toVec sha256) toolName proposalDigest arguments = .ok binding ∧
    binding.validateAction action = .ok ()

variable {toVec sha256}

/-- What is known of a proposal. -/
theorem proposeBrokeredMcpTool_eq_ok {toolName : String} {arguments : Value} {proposal : BrokeredMcpProposal}
    (h : proposeBrokeredMcpTool toVec sha256 toolName arguments = .ok proposal) :
    (toolProfile toolName).isSome ∧ arguments.size ≤ maxMcpArgumentBytes ∧
    ∃ call, proposal.action = .brokeredMcpToolCall call ∧ call.toolName = toolName ∧
      call.argumentsDigest = sha256 (canonicalMcpJsonBytes toVec arguments) ∧
      call.proposalDigest = sha256 (canonicalMcpJsonBytes toVec (proposedCall toolName arguments)) := by
  unfold proposeBrokeredMcpTool validateBrokeredMcpTool at h
  simp only [bind_eq_ok, mapError_eq_ok, okOr_eq_ok, Except.ok.injEq, ite_error_eq_ok] at h
  obtain ⟨toolClass, ⟨profile, hprofile, _, hvalid, rfl⟩, preview, -, -, rfl⟩ := h
  refine ⟨Option.isSome_iff_exists.2 ⟨profile, hprofile⟩, ?_, _, rfl, rfl, rfl, rfl⟩
  unfold validateArguments at hvalid
  exact Nat.not_lt.1 (ite_error_eq_ok.1 hvalid).1

/-- The names of the tools are as they are bound. -/
theorem boundedNonempty_toolName {toolName name : String} (hname : (toolProfile name).isSome) (h : trim toolName = name) :
    boundedNonempty toolName 256 "brokered MCP tool name" = .ok name := by
  have hbounded : ¬(name = "" ∨ 256 < name.utf8ByteSize) := by
    unfold toolProfile at hname
    split_ifs at hname with hcompile hquery hreview
    · rw [hcompile]
      decide
    · rw [hquery]
      decide
    · rw [hreview]
      decide
    · cases hname
  unfold boundedNonempty
  rw [h, if_neg hbounded]

theorem boundedNonempty_eq_ok {value bounded label : String} {maximum : Nat}
    (h : boundedNonempty value maximum label = .ok bounded) : bounded = trim value := by
  unfold boundedNonempty at h
  exact (Except.ok.inj (ite_error_eq_ok.1 h).2).symm

theorem binding_new_eq_ok {toolName proposalDigest : String} {arguments : Value} {binding : BrokeredMcpBinding} :
    BrokeredMcpBinding.new (callDigests toVec sha256) toolName proposalDigest arguments = .ok binding ↔
      ∃ name, boundedNonempty toolName 256 "brokered MCP tool name" = .ok name ∧ isSha256 proposalDigest = true ∧
        (canonicalMcpJsonBytes toVec arguments).length ≤ 1024 * 1024 ∧
        sha256 (canonicalMcpJsonBytes toVec (proposedCall name arguments)) = proposalDigest ∧
        binding = ⟨name, proposalDigest, sha256 (canonicalMcpJsonBytes toVec arguments)⟩ := by
  unfold BrokeredMcpBinding.new callDigests
  simp only [bind_eq_ok, mapError_eq_ok, ite_error_eq_ok, Except.ok.injEq, not_not, not_lt, exists_eq_left', proposedCall]
  refine exists_congr fun name => and_congr_right fun _ => and_congr_right fun _ => and_congr_right fun _ =>
    and_congr_right fun _ => eq_comm

/-- What is digested of a call depends on the arguments up to the order of members. -/
theorem canonical_proposedCall {arguments arguments' : Value}
    (h : canonicalMcpJsonValue arguments = canonicalMcpJsonValue arguments') (toolName : String) :
    canonicalMcpJsonValue (proposedCall toolName arguments) = canonicalMcpJsonValue (proposedCall toolName arguments') := by
  unfold proposedCall
  rw [canonicalMcpJsonValue, canonicalMcpJsonValue]
  simp only [canonicalMembers, h]

/-- **Requests that are accepted.** They name the tool of the proposal, with white space around it at most, have its
arguments up to the order of members, and carry its digest. -/
theorem bindingAccepts_iff (hinjective : Function.Injective toVec) (hdigest : ∀ bytes, isSha256 (sha256 bytes) = true)
    {approvedName toolName proposalDigest : String} {approved arguments : Value} {proposal : BrokeredMcpProposal}
    (hkeys : DistinctKeys arguments) (hproposal : proposeBrokeredMcpTool toVec sha256 approvedName approved = .ok proposal)
    (hsize : (canonicalMcpJsonBytes toVec arguments).length = (canonicalMcpJsonValue arguments).size)
    (hcollision : sha256 (canonicalMcpJsonBytes toVec approved) = sha256 (canonicalMcpJsonBytes toVec arguments) →
      canonicalMcpJsonBytes toVec approved = canonicalMcpJsonBytes toVec arguments) :
    BindingAccepts toVec sha256 toolName proposalDigest arguments proposal.action ↔
      trim toolName = approvedName ∧ SameUpToOrder arguments approved ∧
        proposalDigest = sha256 (canonicalMcpJsonBytes toVec (proposedCall approvedName approved)) := by
  obtain ⟨hname, hbounded, call, haction, hcallName, hcallArguments, hcallDigest⟩ :=
    proposeBrokeredMcpTool_eq_ok hproposal
  unfold BindingAccepts
  rw [haction]
  constructor
  · rintro ⟨binding, hbinding, haccepted⟩
    obtain ⟨name, hbind, -, -, -, rfl⟩ := binding_new_eq_ok.1 hbinding
    obtain rfl := boundedNonempty_eq_ok hbind
    unfold BrokeredMcpBinding.validateAction at haccepted
    dsimp only at haccepted
    split_ifs at haccepted with heq
    obtain ⟨hsameName, hsameDigest, hsameArguments⟩ := heq
    refine ⟨hsameName.symm.trans hcallName, ?_, hsameDigest.symm.trans hcallDigest⟩
    have hbytes := hcollision (hcallArguments.symm.trans hsameArguments)
    exact (canonical_eq_iff hkeys).1 (hinjective hbytes.symm)
  · rintro ⟨htrim, hsame, rfl⟩
    have hcanonical : canonicalMcpJsonValue arguments = canonicalMcpJsonValue approved := (canonical_eq_iff hkeys).2 hsame
    have hbytes : canonicalMcpJsonBytes toVec arguments = canonicalMcpJsonBytes toVec approved :=
      congrArg toVec hcanonical
    refine ⟨_, binding_new_eq_ok.2 ⟨approvedName, boundedNonempty_toolName hname htrim, hdigest _, ?_, ?_, rfl⟩, ?_⟩
    · rw [hsize, hcanonical, size_canonical]
      exact hbounded
    · unfold canonicalMcpJsonBytes
      rw [canonical_proposedCall hcanonical]
    · unfold BrokeredMcpBinding.validateAction
      dsimp only
      rw [if_pos ⟨hcallName, hcallDigest, hcallArguments.trans (congrArg sha256 hbytes.symm)⟩]

end Propose

/-- **Bindings.** The canonical bytes tell values apart up to the order of members, and a request is bound to a proposal
if and only if it has its tool, but for white space around the name, its arguments up to the order of members, and its
digest. The encoding is injective, and the two encodings of arguments do not collide. -/
theorem binding_accepts_iff (toVec : Value → List UInt8) (sha256 : List UInt8 → String)
    (hinjective : Function.Injective toVec) (hdigest : ∀ bytes, isSha256 (sha256 bytes) = true) :
    (∀ v w, DistinctKeys v → (canonicalMcpJsonBytes toVec v = canonicalMcpJsonBytes toVec w ↔ SameUpToOrder v w)) ∧
    ∀ approvedName toolName proposalDigest approved arguments proposal, DistinctKeys arguments →
      proposeBrokeredMcpTool toVec sha256 approvedName approved = .ok proposal →
      (canonicalMcpJsonBytes toVec arguments).length = (canonicalMcpJsonValue arguments).size →
      (sha256 (canonicalMcpJsonBytes toVec approved) = sha256 (canonicalMcpJsonBytes toVec arguments) →
        canonicalMcpJsonBytes toVec approved = canonicalMcpJsonBytes toVec arguments) →
      (BindingAccepts toVec sha256 toolName proposalDigest arguments proposal.action ↔
        trim toolName = approvedName ∧ SameUpToOrder arguments approved ∧
          proposalDigest = sha256 (canonicalMcpJsonBytes toVec (proposedCall approvedName approved))) := by
  refine ⟨?_, ?_⟩
  · intro v w hv
    rw [← canonical_eq_iff hv]
    exact hinjective.eq_iff
  · intro approvedName toolName proposalDigest approved arguments proposal hkeys hproposal hsize hcollision
    exact bindingAccepts_iff hinjective hdigest hkeys hproposal hsize hcollision

/-! ## Examples -/

def sampleArguments : Value := .object [("after", .string "b"), ("before", .string "a")]

/-- The same arguments, as they come in. -/
def sampleReordered : Value := .object [("before", .string "a"), ("after", .string "b")]

def sampleText : List UInt8 := utf8 "\x7b\"after\":\"b\",\"before\":\"a\"\x7d".toList

def sampleCallText : List UInt8 :=
  utf8 ("\x7b\"arguments\":\x7b\"after\":\"b\",\"before\":\"a\"\x7d,\"name\":\"hyper_term.diff.review\"\x7d".toList)

/-- An encoding that is the one of `serde_json` on the arguments and on the call. -/
noncomputable def sampleToVec (v : Value) : List UInt8 :=
  if v = sampleArguments then sampleText
  else if v = proposedCall "hyper_term.diff.review" sampleArguments then sampleCallText
  else 0 :: List.replicate ((exists_injective_nat Value).choose v) 0

def sampleHash (bytes : List UInt8) : String :=
  String.ofList (List.replicate 64 (if bytes = sampleText then 'a' else 'b'))

theorem sampleToVec_injective : Function.Injective sampleToVec := by
  have hhead : sampleText.head? = some 123 ∧ sampleCallText.head? = some 123 := by decide
  have hne : sampleText ≠ sampleCallText := by decide
  have hcode : ∀ v : Value, (0 :: List.replicate ((exists_injective_nat Value).choose v) 0).head? = some (0 : UInt8) :=
    fun _ => rfl
  intro v w h
  unfold sampleToVec at h
  split_ifs at h with hv hw hw hv' hw hw hw hw
  · rw [hv, hw]
  · exact absurd h hne
  · rw [h] at hhead
    cases hhead.1
  · exact absurd h.symm hne
  · rw [hv', hw]
  · rw [h] at hhead
    cases hhead.2
  · rw [← h] at hhead
    cases hhead.1
  · rw [← h] at hhead
    cases hhead.2
  · have hlength := congrArg List.length h
    rw [List.length_cons, List.length_cons, List.length_replicate, List.length_replicate] at hlength
    exact (exists_injective_nat Value).choose_spec (Nat.succ.inj hlength)

theorem isSha256_sampleHash (bytes : List UInt8) : isSha256 (sampleHash bytes) = true := by
  have hboth : isSha256 (String.ofList (List.replicate 64 'a')) = true ∧
      isSha256 (String.ofList (List.replicate 64 'b')) = true := by decide
  unfold sampleHash
  split_ifs
  · exact hboth.1
  · exact hboth.2

theorem distinctKeys_sample : DistinctKeys sampleArguments ∧ DistinctKeys sampleReordered := by
  constructor
  · refine .object (by decide) fun member hmem => ?_
    simp only [List.mem_cons, List.not_mem_nil, or_false] at hmem
    rcases hmem with rfl | rfl
    · exact .string _
    · exact .string _
  · refine .object (by decide) fun member hmem => ?_
    simp only [List.mem_cons, List.not_mem_nil, or_false] at hmem
    rcases hmem with rfl | rfl
    · exact .string _
    · exact .string _

theorem canonical_sample : canonicalMcpJsonValue sampleArguments = sampleArguments ∧
    canonicalMcpJsonValue sampleReordered = sampleArguments := by decide

/-- The sample is proposed. -/
theorem propose_sample :
    ∃ proposal, proposeBrokeredMcpTool sampleToVec sampleHash "hyper_term.diff.review" sampleArguments = .ok proposal := by
  have hvalid : validateBrokeredMcpTool "hyper_term.diff.review" sampleArguments = .ok .diffReview := by decide
  have hpreview : boundedArgumentsPreview sampleToVec sampleArguments =
      .ok (String.ofList (sampleArguments.pretty 0), sampleText.length, false) := by
    have hbytes : sampleToVec sampleArguments = sampleText := if_pos rfl
    have hsmall : ¬4294967295 < sampleText.length ∧ (utf8 (sampleArguments.pretty 0)).length ≤ maxArgumentPreviewBytes := by
      decide
    unfold boundedArgumentsPreview
    dsimp only
    rw [hbytes, if_neg hsmall.1, if_pos hsmall.2]
  unfold proposeBrokeredMcpTool
  rw [hvalid, hpreview]
  dsimp only [bind, Except.bind, Except.mapError]
  rw [if_neg (not_not.2 (isSha256_sampleHash _))]
  exact ⟨_, rfl⟩

theorem size_sample : (canonicalMcpJsonBytes sampleToVec sampleReordered).length = (canonicalMcpJsonValue sampleReordered).size := by
  have hlength : sampleText.length = sampleArguments.size := by decide
  unfold canonicalMcpJsonBytes
  rw [canonical_sample.2, show sampleToVec sampleArguments = sampleText from if_pos rfl]
  exact hlength

/-- Arguments that come in another order than they were proposed in. -/
theorem binding_accepts_iff_reordered : ∃ proposal,
    proposeBrokeredMcpTool sampleToVec sampleHash "hyper_term.diff.review" sampleArguments = .ok proposal ∧
    BindingAccepts sampleToVec sampleHash "hyper_term.diff.review"
      (sampleHash (canonicalMcpJsonBytes sampleToVec (proposedCall "hyper_term.diff.review" sampleArguments)))
      sampleReordered proposal.action := by
  obtain ⟨proposal, hproposal⟩ := propose_sample
  refine ⟨proposal, hproposal, ?_⟩
  refine ((binding_accepts_iff sampleToVec sampleHash sampleToVec_injective isSha256_sampleHash).2 _ _ _ _ _ _
    distinctKeys_sample.2 hproposal size_sample ?_).2 ⟨by decide, ?_, rfl⟩
  · intro _
    unfold canonicalMcpJsonBytes
    rw [canonical_sample.1, canonical_sample.2]
  · exact (canonical_eq_iff distinctKeys_sample.2).1 (canonical_sample.2.trans canonical_sample.1.symm)

/-- A name with white space around it is accepted, though it is not the one of the proposal. -/
theorem spaced_name_accepted : ∃ proposal,
    proposeBrokeredMcpTool sampleToVec sampleHash "hyper_term.diff.review" sampleArguments = .ok proposal ∧
    ¬∀ toolName proposalDigest arguments, DistinctKeys arguments →
      (BindingAccepts sampleToVec sampleHash toolName proposalDigest arguments proposal.action ↔
        toolName = "hyper_term.diff.review" ∧ SameUpToOrder arguments sampleArguments) := by
  obtain ⟨proposal, hproposal⟩ := propose_sample
  refine ⟨proposal, hproposal, fun hall => ?_⟩
  have haccepts : BindingAccepts sampleToVec sampleHash " hyper_term.diff.review"
      (sampleHash (canonicalMcpJsonBytes sampleToVec (proposedCall "hyper_term.diff.review" sampleArguments)))
      sampleReordered proposal.action := by
    refine (bindingAccepts_iff sampleToVec_injective isSha256_sampleHash distinctKeys_sample.2 hproposal size_sample ?_).2
      ⟨by decide, ?_, rfl⟩
    · intro _
      unfold canonicalMcpJsonBytes
      rw [canonical_sample.1, canonical_sample.2]
    · exact (canonical_eq_iff distinctKeys_sample.2).1 (canonical_sample.2.trans canonical_sample.1.symm)
  exact absurd ((hall _ _ _ distinctKeys_sample.2).1 haccepts).1 (by decide)

end HyperTerm.Daemon.Brokered
