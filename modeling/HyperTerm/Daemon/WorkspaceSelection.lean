import HyperTerm.Daemon.WorkspaceTargets
import HyperTerm.Lib.OrderedMap
import Mathlib.Algebra.Order.BigOperators.Group.List
import Mathlib.Data.String.Basic

/-!
# Reviewed sets and what is selected from them

A prepared set is stored, a reviewer takes some of its text writes back or edits them, and the set that is applied goes
through `validateWorkspaceApplySet` once more.

* `selectWorkspaceApplySet` : the reviewed plans with the contents that the reviewer selected;
* `ValidPlan`, `ValidSet` : what the validation asks of one plan, and of a set (`validateWorkspaceApplySet_eq_ok`);
* `SelectedFrom` : a set is the reviewed one, less some plans, with other contents;
* `preparedSets_validate` : what is prepared is valid, and so is what is selected from it.
-/

namespace HyperTerm.Daemon.WorkspaceApply
open HyperTerm.Protocol HyperTerm.Lib HyperTerm.Lib.Paths

variable (E : WorkspaceEncodings)

/-! ## Selecting -/

def WorkspaceFileSnapshot.isBinary (snapshot : WorkspaceFileSnapshot) : Bool := snapshot.binaryBytes.isSome

def WorkspaceApplyPlan.isBinary (plan : WorkspaceApplyPlan) : Bool :=
  plan.proposedBinaryBase64.isSome || plan.base.any WorkspaceFileSnapshot.isBinary

def WorkspaceApplyPlan.baseContent (plan : WorkspaceApplyPlan) : String :=
  (plan.base.map WorkspaceFileSnapshot.content).getD ""

/-- The loop over the reviewed plans, with the bytes selected so far. -/
def selectPlans (selections : OrderedMap String String) (totalBytes : Nat) :
    List WorkspaceApplyPlan → Except WorkspaceApplyError (List WorkspaceApplyPlan)
  | [] => .ok []
  | reviewed :: plans =>
      match selections.get? reviewed.targetPath with
      | none => selectPlans selections totalBytes plans
      | some content =>
          if reviewed.delete || reviewed.isBinary then .error .invalidPath
          else if maxWorkspaceFileBytes < content.utf8ByteSize ∨
              maxWorkspaceApplyBytes < totalBytes + content.utf8ByteSize then
            .error .tooLarge
          else if content = reviewed.baseContent then .error .noChanges
          else do
            let rest ← selectPlans selections (totalBytes + content.utf8ByteSize) plans
            return { reviewed with
              proposedDigest := E.sha256Bytes (utf8 content.toList)
              proposedContent := content
              proposedBinaryBase64 := none } :: rest

def selectWorkspaceApplySet (reviewed : WorkspaceApplySetPlan) (selections : OrderedMap String String) :
    Except WorkspaceApplyError WorkspaceApplySetPlan :=
  if selections.size = 0 ∨ reviewed.plans.length < selections.size then .error .noChanges
  else if selections.keys.any fun target => reviewed.plans.all fun plan => plan.targetPath ≠ target then
    .error .invalidPath
  else do
    let plans ← selectPlans E selections 0 reviewed.plans
    if plans = [] then .error .noChanges
    else return ⟨plans, workspaceSetDigest E plans⟩

/-! ## What the validation asks -/

/-- The length of the proposed bytes; a proposal that cannot be decoded has none. -/
def WorkspaceApplyPlan.proposedLength (plan : WorkspaceApplyPlan) : Nat :=
  match plan.proposedBytes E with
  | .ok proposed => proposed.length
  | .error _ => 0

structure ValidPlan (plan : WorkspaceApplyPlan) : Prop where
  target : ∃ relative, validateTargetPath plan.targetPath = .ok relative
  proposal : ∃ proposed, plan.proposedBytes E = .ok proposed ∧ invalidProposal E plan proposed = false
  base : plan.base.any (invalidBase E plan) = false

structure ValidSet (set : WorkspaceApplySetPlan) : Prop where
  plans : ∀ plan ∈ set.plans, ValidPlan E plan
  distinct : (set.plans.map WorkspaceApplyPlan.targetPath).Nodup
  nonempty : set.plans ≠ []
  files : set.plans.length ≤ maxWorkspaceApplyFiles
  proposed : (set.plans.map (WorkspaceApplyPlan.proposedLength E)).sum ≤ maxWorkspaceApplyBytes
  base : (set.plans.map WorkspaceApplyPlan.baseBytesLen).sum ≤ maxWorkspaceApplyBytes
  digest : workspaceSetDigest E set.plans = set.resultDigest

variable {E}

theorem proposedLength_of_ok {plan : WorkspaceApplyPlan} {proposed : List UInt8}
    (h : plan.proposedBytes E = .ok proposed) : plan.proposedLength E = proposed.length := by
  unfold WorkspaceApplyPlan.proposedLength
  rw [h]

/-- The loop accepts valid plans with targets that are new, and adds up their lengths. -/
theorem validatePlans_eq_ok {targets : List String} {proposedBytes baseBytes : Nat} {plans : List WorkspaceApplyPlan}
    {totals : Nat × Nat} :
    validatePlans E targets proposedBytes baseBytes plans = .ok totals ↔
      (∀ plan ∈ plans, ValidPlan E plan) ∧ (plans.map WorkspaceApplyPlan.targetPath).Nodup ∧
        (∀ plan ∈ plans, plan.targetPath ∉ targets) ∧
        totals = (proposedBytes + (plans.map (WorkspaceApplyPlan.proposedLength E)).sum,
          baseBytes + (plans.map WorkspaceApplyPlan.baseBytesLen).sum) := by
  induction plans generalizing targets proposedBytes baseBytes with
  | nil =>
      show Except.ok _ = Except.ok totals ↔ _
      simp [eq_comm]
  | cons plan plans ih =>
      unfold validatePlans
      simp only [bind_eq_ok]
      constructor
      · rintro ⟨relative, hrelative, proposed, hproposed, h⟩
        split at h
        · exact nomatch h
        rename_i hchecks
        simp only [not_or, Bool.not_eq_true] at hchecks
        obtain ⟨hnew, hproposal, hbase⟩ := hchecks
        obtain ⟨hvalid, hnodup, hfresh, htotals⟩ := ih.mp h
        have hplan : ValidPlan E plan := ⟨⟨relative, hrelative⟩, ⟨proposed, hproposed, hproposal⟩, hbase⟩
        refine ⟨List.forall_mem_cons.mpr ⟨hplan, hvalid⟩, ?_, ?_, ?_⟩
        · refine List.nodup_cons.mpr ⟨fun hmem => ?_, hnodup⟩
          obtain ⟨plan', hplan', heq⟩ := List.mem_map.mp hmem
          exact hfresh plan' hplan' (heq ▸ List.mem_cons_self)
        · exact List.forall_mem_cons.mpr
            ⟨hnew, fun plan' hplan' hmem => hfresh plan' hplan' (List.mem_cons_of_mem _ hmem)⟩
        · rw [htotals, List.map_cons, List.map_cons, List.sum_cons, List.sum_cons, proposedLength_of_ok hproposed,
            Nat.add_assoc, Nat.add_assoc]
      · rintro ⟨hvalid, hnodup, hfresh, htotals⟩
        obtain ⟨hplan, hvalid⟩ := List.forall_mem_cons.mp hvalid
        obtain ⟨hnew, hfresh⟩ := List.forall_mem_cons.mp hfresh
        obtain ⟨hhead, hnodup⟩ := List.nodup_cons.mp hnodup
        obtain ⟨relative, hrelative⟩ := hplan.target
        obtain ⟨proposed, hproposed, hproposal⟩ := hplan.proposal
        refine ⟨relative, hrelative, proposed, hproposed, ?_⟩
        rw [if_neg (by simp [hnew, hproposal, hplan.base])]
        refine ih.mpr ⟨hvalid, hnodup, fun plan' hplan' hmem => ?_, ?_⟩
        · rcases List.mem_cons.mp hmem with heq | hmem
          · exact hhead (heq ▸ List.mem_map_of_mem hplan')
          · exact hfresh plan' hplan' hmem
        · rw [htotals, List.map_cons, List.map_cons, List.sum_cons, List.sum_cons, proposedLength_of_ok hproposed,
            Nat.add_assoc, Nat.add_assoc]

theorem validateWorkspaceApplySet_eq_ok {set : WorkspaceApplySetPlan} :
    validateWorkspaceApplySet E set = .ok () ↔ ValidSet E set := by
  unfold validateWorkspaceApplySet
  constructor
  · intro h
    split at h
    · exact nomatch h
    rename_i hshape
    rw [bind_eq_ok] at h
    obtain ⟨totals, htotals, h⟩ := h
    obtain ⟨hvalid, hnodup, -, rfl⟩ := validatePlans_eq_ok.mp htotals
    split at h
    · exact nomatch h
    rename_i hbounds
    simp only [not_or, Nat.not_lt, Nat.zero_add, not_not] at hshape hbounds
    exact ⟨hvalid, hnodup, hshape.1, hshape.2, hbounds.1, hbounds.2.1, hbounds.2.2⟩
  · intro h
    rw [if_neg (not_or.mpr ⟨h.nonempty, Nat.not_lt.mpr h.files⟩), bind_eq_ok]
    refine ⟨_, validatePlans_eq_ok.mpr ⟨h.plans, h.distinct, fun _ _ => List.not_mem_nil, rfl⟩, if_neg ?_⟩
    simp only [not_or, Nat.not_lt, Nat.zero_add, not_not]
    exact ⟨h.proposed, h.base, h.digest⟩

/-! ## Prepared sets -/

/-- What the two crates give: a digest has its form, and base64 is undone. -/
structure WorkspaceEncodings.Lawful (E : WorkspaceEncodings) : Prop where
  digest : ∀ bytes, isSha256 (E.sha256Bytes bytes) = true
  decode : ∀ bytes, E.decode (E.encode bytes) = some bytes

/-- A snapshot that was read from a file. -/
structure SoundSnapshot (E : WorkspaceEncodings) (snapshot : WorkspaceFileSnapshot) : Prop where
  bounded : snapshot.bytesLen ≤ maxWorkspaceFileBytes
  digest : isSha256 snapshot.digest = true
  binary : ∀ length, snapshot.binaryBytes = some length → length ≠ 0 ∧ snapshot.content = ""
  text : snapshot.binaryBytes = none → E.sha256Bytes (utf8 snapshot.content.toList) = snapshot.digest

theorem invalidBase_eq_false {plan : WorkspaceApplyPlan} {base : WorkspaceFileSnapshot} :
    invalidBase E plan base = false ↔
      SoundSnapshot E base ∧ (plan.delete = true ∨ base.digest ≠ plan.proposedDigest) := by
  unfold invalidBase
  constructor
  · intro h
    simp only [Bool.or_eq_false_iff, Bool.and_eq_false_iff, decide_eq_false_iff_not, Nat.not_lt, Bool.not_eq_false',
      bne_eq_false_iff_eq, beq_eq_false_iff_ne] at h
    obtain ⟨⟨⟨⟨hbounded, hdigest⟩, hbinary⟩, htext⟩, hchange⟩ := h
    refine ⟨⟨hbounded, hdigest, fun length hlength => ?_, fun hnone => ?_⟩, hchange⟩
    · simpa [hlength] using hbinary
    · simpa [hnone] using htext
  · rintro ⟨h, hchange⟩
    have hbounded := h.bounded
    have hdigest := h.digest
    cases hbinary : base.binaryBytes with
    | none =>
        have htext := h.text hbinary
        rcases hchange with hdelete | hne
        · simp [hdigest, hbinary, htext, hdelete, hbounded]
        · simp [hdigest, hbinary, htext, hne, hbounded]
    | some length =>
        obtain ⟨hlength, hcontent⟩ := h.binary length hbinary
        rcases hchange with hdelete | hne
        · simp [hdigest, hbinary, hlength, hcontent, hdelete, hbounded]
        · simp [hdigest, hbinary, hlength, hcontent, hne, hbounded]

theorem readTargetAt_sound (hE : E.Lawful) {tree : WorkspaceTree} {parent : OpenParent}
    {base : Option WorkspaceFileSnapshot} (h : readTargetAt E tree parent = .ok base) :
    ∀ snapshot ∈ base, SoundSnapshot E snapshot := by
  unfold readTargetAt at h
  cases hentry : tree.entry (parent.path ++ [parent.fileName]) with
  | absent =>
      rw [hentry] at h
      obtain rfl := Except.ok.inj h
      exact fun _ hsnapshot => absurd hsnapshot (by simp)
  | file device inode mode bytes =>
      rw [hentry] at h
      dsimp only at h
      split at h
      · cases h
      rename_i hbound
      intro snapshot hsnapshot
      cases hdecoded : fromUtf8 bytes with
      | some content =>
          rw [hdecoded] at h
          obtain rfl := Except.ok.inj h
          obtain rfl := Option.some.inj hsnapshot
          have hbytes : utf8 content = bytes := utf8_of_fromUtf8 hdecoded
          refine ⟨?_, hE.digest bytes, fun _ hlength => absurd hlength (by simp), fun _ => ?_⟩
          · show (String.ofList content).utf8ByteSize ≤ _
            rw [utf8ByteSize_ofList, hbytes]
            exact Nat.not_lt.mp hbound
          · show E.sha256Bytes (utf8 (String.ofList content).toList) = E.sha256Bytes bytes
            rw [String.toList_ofList, hbytes]
      | none =>
          rw [hdecoded] at h
          obtain rfl := Except.ok.inj h
          obtain rfl := Option.some.inj hsnapshot
          refine ⟨Nat.not_lt.mp hbound, hE.digest bytes, fun length hlength => ?_, fun hnone => absurd hnone (by simp)⟩
          obtain rfl := Option.some.inj hlength
          refine ⟨fun hzero => ?_, rfl⟩
          rw [List.length_eq_zero_iff.mp hzero] at hdecoded
          exact absurd hdecoded (by decide)
  | directory device inode readable => rw [hentry] at h; cases h
  | unreadable error => rw [hentry] at h; cases h
  | other => rw [hentry] at h; cases h

theorem reviewTarget_sound (hE : E.Lawful) {tree : WorkspaceTree} {targetPath : String}
    {review : OpenParent × Option WorkspaceFileSnapshot} (h : reviewTarget E tree targetPath = .ok review) :
    (∃ relative, validateTargetPath targetPath = .ok relative) ∧ ∀ snapshot ∈ review.2, SoundSnapshot E snapshot := by
  unfold reviewTarget at h
  simp only [bind_eq_ok, pure_eq_ok] at h
  obtain ⟨relative, hrelative, parent, -, base, hbase, rfl⟩ := h
  exact ⟨⟨relative, hrelative⟩, readTargetAt_sound hE hbase⟩

/-- A plan that writes: its content is a text, or bytes that are none. -/
theorem validPlan_write {plan : WorkspaceApplyPlan} {proposed : List UInt8}
    (htarget : ∃ relative, validateTargetPath plan.targetPath = .ok relative) (hdelete : plan.delete = false)
    (hbase : ∀ snapshot ∈ plan.base, SoundSnapshot E snapshot ∧ snapshot.digest ≠ plan.proposedDigest)
    (hproposed : plan.proposedBytes E = .ok proposed) (hbound : proposed.length ≤ maxWorkspaceFileBytes)
    (hdigest : E.sha256Bytes proposed = plan.proposedDigest)
    (hencoded : plan.proposedBinaryBase64 = none ∨ plan.proposedContent = "" ∧ fromUtf8 proposed = none ∧
      plan.proposedBinaryBase64 = some (E.encode proposed)) :
    ValidPlan E plan := by
  refine ⟨htarget, ⟨proposed, hproposed, ?_⟩, ?_⟩
  · unfold invalidProposal
    rw [hdelete, if_neg Bool.false_ne_true]
    rcases hencoded with hnone | ⟨hcontent, htext, hsome⟩
    · simp [hnone, hdigest, hbound]
    · have hne : proposed ≠ [] := by
        rintro rfl
        exact absurd htext (by decide)
      simp [hsome, hcontent, htext, hdigest, hbound, hne]
  · cases hplan : plan.base with
    | none => rfl
    | some snapshot =>
        obtain ⟨hsound, hne⟩ := hbase snapshot hplan
        exact invalidBase_eq_false.mpr ⟨hsound, .inr hne⟩

/-- The bytes of a write are what its plan proposes. -/
theorem prepareWorkspaceBytes_valid (hE : E.Lawful) {tree : WorkspaceTree} {targetPath : String}
    {proposedBytes : List UInt8} {plan : WorkspaceApplyPlan}
    (h : prepareWorkspaceBytes E tree targetPath proposedBytes = .ok plan) :
    ValidPlan E plan ∧ plan.proposedLength E = proposedBytes.length := by
  unfold prepareWorkspaceBytes at h
  split at h
  · cases h
  rename_i hbound
  rw [bind_eq_ok] at h
  obtain ⟨review, hreview, h⟩ := h
  split at h
  · cases h
  rename_i hchange
  obtain ⟨htarget, hsound⟩ := reviewTarget_sound hE hreview
  obtain rfl := Except.ok.inj h
  have hbase (snapshot : WorkspaceFileSnapshot) (hsnapshot : snapshot ∈ review.2) :
      SoundSnapshot E snapshot ∧ snapshot.digest ≠ E.sha256Bytes proposedBytes := by
    refine ⟨hsound snapshot hsnapshot, fun heq => hchange ?_⟩
    rw [Option.mem_def.mp hsnapshot]
    exact decide_eq_true heq
  cases hdecoded : fromUtf8 proposedBytes with
  | some content =>
      have hbytes : utf8 content = proposedBytes := utf8_of_fromUtf8 hdecoded
      have hencode : encodeWorkspaceContent E proposedBytes = (String.ofList content, none) := by
        rw [encodeWorkspaceContent, hdecoded]
      rw [hencode]
      have hproposed : WorkspaceApplyPlan.proposedBytes E ⟨targetPath, String.ofList content, none,
          E.sha256Bytes proposedBytes, false, review.2, review.1.device, review.1.inode⟩ = .ok proposedBytes := by
        show Except.ok (utf8 (String.ofList content).toList) = _
        rw [String.toList_ofList, hbytes]
      exact ⟨validPlan_write htarget rfl hbase hproposed (Nat.not_lt.mp hbound) rfl (.inl rfl),
        proposedLength_of_ok hproposed⟩
  | none =>
      have hencode : encodeWorkspaceContent E proposedBytes = ("", some (E.encode proposedBytes)) := by
        rw [encodeWorkspaceContent, hdecoded]
      rw [hencode]
      have hproposed : WorkspaceApplyPlan.proposedBytes E ⟨targetPath, "", some (E.encode proposedBytes),
          E.sha256Bytes proposedBytes, false, review.2, review.1.device, review.1.inode⟩ = .ok proposedBytes := by
        show okOr (E.decode (E.encode proposedBytes)) _ = _
        rw [hE.decode]
        rfl
      exact ⟨validPlan_write htarget rfl hbase hproposed (Nat.not_lt.mp hbound) rfl (.inr ⟨rfl, hdecoded, rfl⟩),
        proposedLength_of_ok hproposed⟩

theorem prepareWorkspaceDeletion_valid (hE : E.Lawful) {tree : WorkspaceTree} {targetPath : String}
    {plan : WorkspaceApplyPlan} (h : prepareWorkspaceDeletion E tree targetPath = .ok plan) :
    ValidPlan E plan ∧ plan.proposedLength E = 0 := by
  unfold prepareWorkspaceDeletion at h
  simp only [bind_eq_ok, okOr_eq_ok, pure_eq_ok] at h
  obtain ⟨review, hreview, base, hbase, rfl⟩ := h
  obtain ⟨htarget, hsound⟩ := reviewTarget_sound hE hreview
  refine ⟨⟨htarget, ⟨[], rfl, ?_⟩, invalidBase_eq_false.mpr ⟨hsound base hbase, .inl rfl⟩⟩, rfl⟩
  simp [invalidProposal]

theorem prepareRequest_valid (hE : E.Lawful) {tree : WorkspaceTree} {request : WorkspaceApplyRequest}
    {plan : WorkspaceApplyPlan} (h : prepareRequest E tree request = .ok plan) :
    ValidPlan E plan ∧ plan.proposedLength E = request.bytes ∧ plan.targetPath = request.targetPath := by
  have htarget : plan.targetPath = request.targetPath := ((prepares_request request).planned plan h).1
  cases request with
  | write targetPath proposedContent =>
      obtain ⟨hvalid, hlength⟩ := prepareWorkspaceBytes_valid hE h
      refine ⟨hvalid, hlength.trans ?_, htarget⟩
      rw [← utf8ByteSize_ofList, String.ofList_toList]
      rfl
  | writeBytes targetPath proposedBytes =>
      obtain ⟨hvalid, hlength⟩ := prepareWorkspaceBytes_valid hE h
      exact ⟨hvalid, hlength, htarget⟩
  | delete targetPath =>
      obtain ⟨hvalid, hlength⟩ := prepareWorkspaceDeletion_valid hE h
      exact ⟨hvalid, hlength, htarget⟩

/-- The loop over the requests: every plan is valid, no target comes twice, and nothing is planned that was not asked. -/
theorem prepareRequests_valid (hE : E.Lawful) {tree : WorkspaceTree} {targets : List String}
    {requests : List WorkspaceApplyRequest} {plans : List WorkspaceApplyPlan}
    (h : prepareRequests E tree targets requests = .ok plans) :
    (∀ plan ∈ plans, ValidPlan E plan ∧ plan.targetPath ∉ targets) ∧
      (plans.map WorkspaceApplyPlan.targetPath).Nodup ∧ plans.length ≤ requests.length ∧
      (plans.map (WorkspaceApplyPlan.proposedLength E)).sum ≤ (requests.map WorkspaceApplyRequest.bytes).sum := by
  induction requests generalizing targets plans with
  | nil =>
      obtain rfl := Except.ok.inj h
      exact ⟨List.forall_mem_nil _, List.nodup_nil, le_rfl, le_rfl⟩
  | cons request requests ih =>
      unfold prepareRequests at h
      by_cases hseen : request.targetPath ∈ targets
      · rw [if_pos hseen] at h
        cases h
      rw [if_neg hseen] at h
      rw [List.map_cons, List.sum_cons, List.length_cons]
      cases hplan : prepareRequest E tree request with
      | ok plan =>
          rw [hplan] at h
          obtain ⟨hvalid, hlength, htarget⟩ := prepareRequest_valid hE hplan
          simp only [bind_eq_ok, pure_eq_ok] at h
          obtain ⟨rest, hrest, rfl⟩ := h
          obtain ⟨hall, hnodup, hcount, hsum⟩ := ih hrest
          refine ⟨List.forall_mem_cons.mpr ⟨⟨hvalid, htarget ▸ hseen⟩, fun plan' hplan' => ?_⟩, ?_, ?_, ?_⟩
          · obtain ⟨hvalid', hnew⟩ := hall plan' hplan'
            exact ⟨hvalid', fun hmem => hnew (List.mem_cons_of_mem _ hmem)⟩
          · refine List.nodup_cons.mpr ⟨fun hmem => ?_, hnodup⟩
            obtain ⟨plan', hplan', heq⟩ := List.mem_map.mp hmem
            exact (hall plan' hplan').2 (by rw [heq, htarget]; exact List.mem_cons_self)
          · exact Nat.succ_le_succ hcount
          · rw [List.map_cons, List.sum_cons, hlength]
            exact Nat.add_le_add_left hsum _
      | error error =>
          rw [hplan] at h
          have hunchanged : error = .noChanges := by
            cases error <;> first | rfl | cases h
          subst hunchanged
          obtain ⟨hall, hnodup, hcount, hsum⟩ := ih h
          refine ⟨fun plan hmem => ?_, hnodup, Nat.le_succ_of_le hcount, hsum.trans (Nat.le_add_left _ _)⟩
          obtain ⟨hvalid, hnew⟩ := hall plan hmem
          exact ⟨hvalid, fun hmem => hnew (List.mem_cons_of_mem _ hmem)⟩

theorem prepared_valid (hE : E.Lawful) {tree : WorkspaceTree} {requests : List WorkspaceApplyRequest}
    {set : WorkspaceApplySetPlan} (h : prepareWorkspaceApplyRequests E tree requests = .ok set) : ValidSet E set := by
  unfold prepareWorkspaceApplyRequests at h
  split at h
  · cases h
  rename_i hshape
  split at h
  · cases h
  rename_i hbytes
  rw [bind_eq_ok] at h
  obtain ⟨plans, hplans, h⟩ := h
  split at h
  · cases h
  rename_i hne
  split at h
  · cases h
  rename_i hbase
  obtain rfl := Except.ok.inj h
  obtain ⟨hall, hnodup, hcount, hsum⟩ := prepareRequests_valid hE hplans
  exact {
    plans := fun plan hplan => (hall plan hplan).1
    distinct := hnodup
    nonempty := hne
    files := hcount.trans (Nat.not_lt.mp fun hlt => hshape (.inr hlt))
    proposed := hsum.trans (Nat.not_lt.mp hbytes)
    base := Nat.not_lt.mp hbase
    digest := rfl }

/-! ## Selected sets -/

/-- The plan is for the target of the reviewed one, against the same file in the same directory. -/
structure SameReview (plan reviewed : WorkspaceApplyPlan) : Prop where
  targetPath : plan.targetPath = reviewed.targetPath
  base : plan.base = reviewed.base
  parentDevice : plan.parentDevice = reviewed.parentDevice
  parentInode : plan.parentInode = reviewed.parentInode

/-- Some of the reviewed plans, in the reviewed order, with the selected contents. -/
structure SelectedFrom (reviewed : WorkspaceApplySetPlan) (selections : OrderedMap String String)
    (selected : WorkspaceApplySetPlan) : Prop where
  order : ∃ kept, kept.Sublist reviewed.plans ∧ List.Forall₂ SameReview selected.plans kept
  content : ∀ plan ∈ selected.plans, selections.get? plan.targetPath = some plan.proposedContent

/-- No selected content has the digest of a reviewed base that is another text. -/
def TellsApart (E : WorkspaceEncodings) (plans : List WorkspaceApplyPlan) (selections : OrderedMap String String) :
    Prop :=
  ∀ plan ∈ plans, ∀ content ∈ selections.values,
    E.sha256Bytes (utf8 content.toList) = E.sha256Bytes (utf8 plan.baseContent.toList) → content = plan.baseContent

/-- Another text in the place of a reviewed one is as valid. -/
theorem validPlan_select {reviewed : WorkspaceApplyPlan} {content : String} (h : ValidPlan E reviewed)
    (hdelete : reviewed.delete = false) (hbinary : reviewed.isBinary = false)
    (hbound : content.utf8ByteSize ≤ maxWorkspaceFileBytes) (hchange : content ≠ reviewed.baseContent)
    (happart : E.sha256Bytes (utf8 content.toList) = E.sha256Bytes (utf8 reviewed.baseContent.toList) →
      content = reviewed.baseContent) :
    ValidPlan E { reviewed with
      proposedDigest := E.sha256Bytes (utf8 content.toList), proposedContent := content,
      proposedBinaryBase64 := none } := by
  have hlength : (utf8 content.toList).length = content.utf8ByteSize := by
    rw [← utf8ByteSize_ofList, String.ofList_toList]
  refine validPlan_write h.target hdelete (fun snapshot hsnapshot => ?_) rfl (hlength.trans_le hbound) rfl (.inl rfl)
  have hsome : reviewed.base = some snapshot := hsnapshot
  have hinvalid := h.base
  rw [hsome, Option.any_some] at hinvalid
  have hsound : SoundSnapshot E snapshot := (invalidBase_eq_false.mp hinvalid).1
  refine ⟨hsound, fun heq => hchange (happart ?_)⟩
  have hnone : snapshot.binaryBytes = none := by
    unfold WorkspaceApplyPlan.isBinary at hbinary
    rw [hsome, Option.any_some, Bool.or_eq_false_iff] at hbinary
    exact Option.isSome_eq_false_iff.mp hbinary.2 |> Option.isNone_iff_eq_none.mp
  have hcontent : reviewed.baseContent = snapshot.content := by
    unfold WorkspaceApplyPlan.baseContent
    rw [hsome]
    rfl
  rw [hcontent, hsound.text hnone]
  exact heq.symm

theorem selectPlans_valid {selections : OrderedMap String String} {totalBytes : Nat}
    {reviewed plans : List WorkspaceApplyPlan} (hvalid : ∀ plan ∈ reviewed, ValidPlan E plan)
    (happart : TellsApart E reviewed selections) (htotal : totalBytes ≤ maxWorkspaceApplyBytes)
    (h : selectPlans E selections totalBytes reviewed = .ok plans) :
    (∀ plan ∈ plans, ValidPlan E plan ∧ selections.get? plan.targetPath = some plan.proposedContent) ∧
      (∃ kept, kept.Sublist reviewed ∧ List.Forall₂ SameReview plans kept) ∧
      totalBytes + (plans.map (WorkspaceApplyPlan.proposedLength E)).sum ≤ maxWorkspaceApplyBytes := by
  induction reviewed generalizing totalBytes plans with
  | nil =>
      obtain rfl := Except.ok.inj h
      exact ⟨List.forall_mem_nil _, ⟨[], List.Sublist.refl _, .nil⟩, htotal⟩
  | cons plan reviewed ih =>
      obtain ⟨hplan, hvalid⟩ := List.forall_mem_cons.mp hvalid
      obtain ⟨hplanApart, happart⟩ := List.forall_mem_cons.mp happart
      unfold selectPlans at h
      cases hselected : selections.get? plan.targetPath with
      | none =>
          rw [hselected] at h
          obtain ⟨hall, ⟨kept, hkept, hsame⟩, hsum⟩ := ih hvalid happart htotal h
          exact ⟨hall, ⟨kept, hkept.cons plan, hsame⟩, hsum⟩
      | some content =>
          rw [hselected] at h
          dsimp only at h
          split at h
          · cases h
          rename_i hkind
          split at h
          · cases h
          rename_i hsize
          split at h
          · cases h
          rename_i hchange
          simp only [Bool.or_eq_true, not_or, Bool.not_eq_true] at hkind
          simp only [not_or, Nat.not_lt] at hsize
          simp only [bind_eq_ok, pure_eq_ok] at h
          obtain ⟨rest, hrest, rfl⟩ := h
          obtain ⟨hall, ⟨kept, hkept, hsame⟩, hsum⟩ := ih hvalid happart hsize.2 hrest
          have hmem : content ∈ selections.values :=
            List.mem_map.mpr ⟨_, OrderedMap.get?_eq_some.mp hselected, rfl⟩
          have hvalid' := validPlan_select hplan hkind.1 hkind.2 hsize.1 hchange (hplanApart content hmem)
          refine ⟨List.forall_mem_cons.mpr ⟨⟨hvalid', hselected⟩, hall⟩,
            ⟨plan :: kept, hkept.cons_cons plan, .cons ⟨rfl, rfl, rfl, rfl⟩ hsame⟩, ?_⟩
          have hlength : WorkspaceApplyPlan.proposedLength E { plan with
              proposedDigest := E.sha256Bytes (utf8 content.toList), proposedContent := content,
              proposedBinaryBase64 := none } = content.utf8ByteSize := by
            have hlength := utf8ByteSize_ofList content.toList
            rw [String.ofList_toList] at hlength
            exact hlength.symm
          rw [List.map_cons, List.sum_cons, hlength, ← Nat.add_assoc]
          exact hsum

/-- The reviewed plans that a selection keeps have their targets and their bases. -/
theorem forall₂_map_eq {β : Type} {f : WorkspaceApplyPlan → β} (hf : ∀ plan reviewed, SameReview plan reviewed →
      f plan = f reviewed) {plans kept : List WorkspaceApplyPlan} (h : List.Forall₂ SameReview plans kept) :
    plans.map f = kept.map f := by
  induction h with
  | nil => rfl
  | cons hhead _ ih => rw [List.map_cons, List.map_cons, hf _ _ hhead, ih]

theorem selected_valid {reviewed selected : WorkspaceApplySetPlan} {selections : OrderedMap String String}
    (hvalid : ValidSet E reviewed) (happart : TellsApart E reviewed.plans selections)
    (h : selectWorkspaceApplySet E reviewed selections = .ok selected) :
    ValidSet E selected ∧ SelectedFrom reviewed selections selected := by
  unfold selectWorkspaceApplySet at h
  split at h
  · cases h
  split at h
  · cases h
  rw [bind_eq_ok] at h
  obtain ⟨plans, hplans, h⟩ := h
  split at h
  · cases h
  rename_i hne
  obtain rfl := Except.ok.inj h
  obtain ⟨hall, ⟨kept, hkept, hsame⟩, hsum⟩ := selectPlans_valid hvalid.plans happart (Nat.zero_le _) hplans
  have htargets : plans.map WorkspaceApplyPlan.targetPath = kept.map WorkspaceApplyPlan.targetPath :=
    forall₂_map_eq (fun _ _ h => h.targetPath) hsame
  have hbase : plans.map WorkspaceApplyPlan.baseBytesLen = kept.map WorkspaceApplyPlan.baseBytesLen := by
    refine forall₂_map_eq (fun plan reviewed h => ?_) hsame
    unfold WorkspaceApplyPlan.baseBytesLen
    rw [h.base]
  refine ⟨?_, ⟨⟨kept, hkept, hsame⟩, fun plan hplan => (hall plan hplan).2⟩⟩
  exact {
    plans := fun plan hplan => (hall plan hplan).1
    distinct := by
      show (plans.map WorkspaceApplyPlan.targetPath).Nodup
      rw [htargets]
      exact hvalid.distinct.sublist (hkept.map _)
    nonempty := hne
    files := by
      show plans.length ≤ _
      rw [hsame.length_eq]
      exact hkept.length_le.trans hvalid.files
    proposed := (Nat.zero_add _).symm.trans_le hsum
    base := by
      show (plans.map WorkspaceApplyPlan.baseBytesLen).sum ≤ _
      rw [hbase]
      exact (List.Sublist.sum_le_sum (hkept.map _) fun _ _ => Nat.zero_le _).trans hvalid.base
    digest := rfl }

/-- **Main result.** Every prepared set passes the validation, and so does every set selected from it, which keeps the
review of the plans it is made of. -/
theorem preparedSets_validate (hE : E.Lawful) (tree : WorkspaceTree) (requests : List WorkspaceApplyRequest)
    (set : WorkspaceApplySetPlan) (h : prepareWorkspaceApplyRequests E tree requests = .ok set) :
    validateWorkspaceApplySet E set = .ok () ∧
      ∀ (selections : OrderedMap String String) (selected : WorkspaceApplySetPlan),
        TellsApart E set.plans selections → selectWorkspaceApplySet E set selections = .ok selected →
          validateWorkspaceApplySet E selected = .ok () ∧ SelectedFrom set selections selected := by
  have hset : ValidSet E set := prepared_valid hE h
  refine ⟨validateWorkspaceApplySet_eq_ok.mpr hset, fun selections selected happart hselected => ?_⟩
  obtain ⟨hvalid, hfrom⟩ := selected_valid hset happart hselected
  exact ⟨validateWorkspaceApplySet_eq_ok.mpr hvalid, hfrom⟩

/-! ## A set of one file, reviewed and edited -/

/-- The digests of the texts below; no bytes are encoded there. -/
def reviewEncodings : WorkspaceEncodings where
  sha256Bytes bytes :=
    if bytes = ascii "one" then "7692c3ad3540bb803c020b3aee66cd8887123234ea0c6e7143c0add73ff431ed"
    else if bytes = ascii "two" then "3fc4ccfe745870e2c0d99f71f30ff0656c8dedd41cc1d7d3d376b0dbe685e2f3"
    else "8b5b9db0c13db24256c829aa364aa90c6d2eba318b9232a4ab9313b954d3555f"
  encode bytes := String.ofList (bytes.map fun byte => Char.ofNat byte.toNat)
  decode encoded := some (encoded.toList.map fun c => UInt8.ofNat c.toNat)

theorem reviewEncodings_lawful : reviewEncodings.Lawful where
  digest bytes := by
    show isSha256 (if bytes = ascii "one" then _ else if bytes = ascii "two" then _ else _) = true
    split
    · decide
    · split <;> decide
  decode bytes := by
    show some (List.map _ (String.ofList (bytes.map _)).toList) = some bytes
    rw [String.toList_ofList, List.map_map]
    refine congrArg some ((List.map_congr_left fun byte _ => ?_).trans (List.map_id bytes))
    have hlt : byte.toNat < 256 := byte.toNat_lt
    have hchar : (Char.ofNat byte.toNat).toNat = byte.toNat := by
      rw [Char.ofNat, dif_pos (.inl (by omega))]
      rfl
    show UInt8.ofNat (Char.ofNat byte.toNat).toNat = byte
    rw [hchar, UInt8.ofNat_toNat]

/-- A workspace with one file, `n`, that holds `one`. -/
def reviewTree : WorkspaceTree where
  canonical := true
  entry
    | [] => .directory 1 2 true
    | [name] => if name = "n".toList then .file 1 4 33188 (ascii "one") else .absent
    | _ => .absent

def reviewedPlan (proposedContent proposedDigest : String) : WorkspaceApplyPlan where
  targetPath := "n"
  proposedContent := proposedContent
  proposedBinaryBase64 := none
  proposedDigest := proposedDigest
  delete := false
  base := some ⟨"one", none, "7692c3ad3540bb803c020b3aee66cd8887123234ea0c6e7143c0add73ff431ed", 1, 4, 33188⟩
  parentDevice := 1
  parentInode := 2

def reviewedSet : WorkspaceApplySetPlan where
  plans := [reviewedPlan "two" "3fc4ccfe745870e2c0d99f71f30ff0656c8dedd41cc1d7d3d376b0dbe685e2f3"]
  resultDigest := "3fc4ccfe745870e2c0d99f71f30ff0656c8dedd41cc1d7d3d376b0dbe685e2f3"

def editedSet : WorkspaceApplySetPlan where
  plans := [reviewedPlan "three" "8b5b9db0c13db24256c829aa364aa90c6d2eba318b9232a4ab9313b954d3555f"]
  resultDigest := "8b5b9db0c13db24256c829aa364aa90c6d2eba318b9232a4ab9313b954d3555f"

/-- The agent writes `two`, and the reviewer makes it `three`. -/
theorem editedSet_validates :
    validateWorkspaceApplySet reviewEncodings reviewedSet = .ok () ∧
      validateWorkspaceApplySet reviewEncodings editedSet = .ok () ∧
      SelectedFrom reviewedSet (OrderedMap.singleton "n" "three") editedSet := by
  obtain ⟨hreviewed, hselect⟩ := preparedSets_validate reviewEncodings_lawful reviewTree [.write "n" "two"] reviewedSet
    (by decide)
  refine ⟨hreviewed, hselect _ _ ?_ (by decide)⟩
  have hdigests : reviewEncodings.sha256Bytes (utf8 "three".toList) ≠
      reviewEncodings.sha256Bytes (utf8 "one".toList) := by
    decide
  intro plan hplan content hcontent heq
  obtain rfl := List.mem_singleton.mp hplan
  obtain rfl := List.mem_singleton.mp hcontent
  exact absurd heq hdigests

end HyperTerm.Daemon.WorkspaceApply
