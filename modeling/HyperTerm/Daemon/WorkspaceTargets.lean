import HyperTerm.Daemon.Operations
import HyperTerm.Lib.Paths
import HyperTerm.Protocol.Wire

/-!
# The targets of a workspace apply

`prepareWorkspaceApplyRequests` reviews what an agent wants written against the workspace, and
`validateWorkspaceApplySet` checks a set that was stored. Both keep the targets apart by the text of the request; the
files are opened by the components of the path.

* `WorkspaceTree` : what the file system answers under the workspace root, while a set is prepared;
* `DistinctTargets` : no two plans of a set denote one file;
* `prepared_targets` : a prepared set has a plan for each request that changes something;
* `distinctTargets_iff` : a set has distinct targets just when no target respells another.
-/

namespace HyperTerm.Daemon.WorkspaceApply
open HyperTerm.Protocol HyperTerm.Lib HyperTerm.Lib.Paths

def maxWorkspaceFileBytes : Nat := 1024 * 1024
def maxWorkspaceApplyFiles : Nat := 32
def maxWorkspaceApplyBytes : Nat := 4 * 1024 * 1024
def maxTargetPathBytes : Nat := 4096

structure WorkspaceFileSnapshot where
  content : String
  binaryBytes : Option Nat
  digest : String
  device : Nat
  inode : Nat
  mode : Nat
  deriving DecidableEq

structure WorkspaceApplyPlan where
  targetPath : String
  proposedContent : String
  proposedBinaryBase64 : Option String
  proposedDigest : String
  delete : Bool
  base : Option WorkspaceFileSnapshot
  parentDevice : Nat
  parentInode : Nat
  deriving DecidableEq

inductive WorkspaceApplyRequest where
  | write (targetPath proposedContent : String)
  | writeBytes (targetPath : String) (proposedBytes : List UInt8)
  | delete (targetPath : String)

structure WorkspaceApplySetPlan where
  plans : List WorkspaceApplyPlan
  resultDigest : String
  deriving DecidableEq

inductive WorkspaceApplyError where
  | invalidPath
  | parentUnavailable
  | unsupportedTarget
  | tooLarge
  | noChanges
  | io (error : String)
  deriving DecidableEq

/-- SHA-256, in lower-case hexadecimal, and base64 with padding. -/
structure WorkspaceEncodings where
  sha256Bytes : List UInt8 → String
  encode : List UInt8 → String
  decode : String → Option (List UInt8)

/-! ## Plans and snapshots -/

def WorkspaceFileSnapshot.bytesLen (snapshot : WorkspaceFileSnapshot) : Nat :=
  snapshot.binaryBytes.getD snapshot.content.utf8ByteSize

def WorkspaceApplyPlan.baseBytesLen (plan : WorkspaceApplyPlan) : Nat :=
  (plan.base.map WorkspaceFileSnapshot.bytesLen).getD 0

def WorkspaceApplyRequest.targetPath : WorkspaceApplyRequest → String
  | .write targetPath _ | .writeBytes targetPath _ | .delete targetPath => targetPath

/-- The length that counts towards the bound of a request list. -/
def WorkspaceApplyRequest.bytes : WorkspaceApplyRequest → Nat
  | .write _ proposedContent => proposedContent.utf8ByteSize
  | .writeBytes _ proposedBytes => proposedBytes.length
  | .delete _ => 0

variable (E : WorkspaceEncodings)

def WorkspaceApplyPlan.proposedBytes (plan : WorkspaceApplyPlan) : Except WorkspaceApplyError (List UInt8) :=
  match plan.proposedBinaryBase64 with
  | some encoded => okOr (E.decode encoded) .invalidPath
  | none => .ok (utf8 plan.proposedContent.toList)

def encodeWorkspaceContent (bytes : List UInt8) : String × Option String :=
  match fromUtf8 bytes with
  | some content => (String.ofList content, none)
  | none => ("", some (E.encode bytes))

/-- The text as bytes; its characters are all below 128. -/
def ascii (text : String) : List UInt8 := text.toList.map fun c => UInt8.ofNat c.toNat

def workspaceDeletionDigest : String := E.sha256Bytes (ascii "hyper-term.workspace.delete.v1\x00")

def workspaceSetDigest (plans : List WorkspaceApplyPlan) : String :=
  let framed (plan : WorkspaceApplyPlan) := beBytes 8 plan.targetPath.utf8ByteSize ++ utf8 plan.targetPath.toList
  if plans.all fun plan => !plan.delete then
    match plans with
    | [plan] => plan.proposedDigest
    | _ => E.sha256Bytes (ascii "hyper-term.workspace.apply-set.v1\x00" ++ plans.flatMap fun plan =>
        framed plan ++ utf8 plan.proposedDigest.toList)
  else
    E.sha256Bytes (ascii "hyper-term.workspace.apply-set.v2\x00" ++ plans.flatMap fun plan =>
      framed plan ++ [if plan.delete then 1 else 0] ++ utf8 plan.proposedDigest.toList)

/-! ## The workspace -/

/-- What is found under a name, without following a symbolic link. -/
inductive Entry where
  | absent
  | directory (device inode : Nat) (readable : Bool)
  | file (device inode mode : Nat) (bytes : List UInt8)
  /-- Opened, and then its metadata or its bytes cannot be read. -/
  | unreadable (error : String)
  /-- A symbolic link, another special file, or a name that cannot be opened. -/
  | other

/-- The entries below the workspace root. A set is prepared against one tree: nothing moves meanwhile. -/
structure WorkspaceTree where
  /-- The path of the root is its own canonical form. -/
  canonical : Bool
  entry : List (List Char) → Entry

structure OpenParent where
  path : List (List Char)
  fileName : List Char
  device : Nat
  inode : Nat

/-- The names of directories that are never a target or on the way to one. -/
def versionControl : List (List Char) := [".git".toList, ".hg".toList, ".svn".toList, ".jj".toList]

def validateTargetPath (value : String) : Except WorkspaceApplyError (List Char) :=
  if value = "" ∨ maxTargetPathBytes < value.utf8ByteSize ∨ '\x00' ∈ value.toList ∨ isAbsolute value.toList then
    .error .invalidPath
  else if (components value.toList).any fun component => component.name?.all (· ∈ versionControl) then
    .error .invalidPath
  else if components value.toList = [] then .error .invalidPath
  else .ok value.toList

/-- The loop of `open_parent`: each directory on the way, from the one above on. -/
def descend (tree : WorkspaceTree) :
    List (List Char) → List Component → Except WorkspaceApplyError (List (List Char))
  | above, [] => .ok above
  | above, component :: components =>
      match component.name? with
      | none => .error .invalidPath
      | some name =>
          match tree.entry (above ++ [name]) with
          | .directory _ _ _ => descend tree (above ++ [name]) components
          | _ => .error .parentUnavailable

def openDirectory (tree : WorkspaceTree) (path : List (List Char)) : Except WorkspaceApplyError (Nat × Nat) :=
  match tree.entry path with
  | .absent => .error .parentUnavailable
  | .directory device inode readable =>
      if !tree.canonical then .error .invalidPath
      else if !readable then .error .parentUnavailable
      else .ok (device, inode)
  | _ => .error (if tree.canonical then .parentUnavailable else .invalidPath)

def openParent (tree : WorkspaceTree) (relative : List Char) : Except WorkspaceApplyError OpenParent := do
  let path ← descend tree [] (components relative).dropLast
  let directory ← openDirectory tree path
  let fileName ← okOr ((components relative).getLast?.bind Component.name?) .invalidPath
  return ⟨path, fileName, directory.1, directory.2⟩

def readTargetAt (tree : WorkspaceTree) (parent : OpenParent) :
    Except WorkspaceApplyError (Option WorkspaceFileSnapshot) :=
  match tree.entry (parent.path ++ [parent.fileName]) with
  | .absent => .ok none
  | .file device inode mode bytes =>
      if maxWorkspaceFileBytes < bytes.length then .error .tooLarge
      else
        match fromUtf8 bytes with
        | some content => .ok (some ⟨String.ofList content, none, E.sha256Bytes bytes, device, inode, mode⟩)
        | none => .ok (some ⟨"", some bytes.length, E.sha256Bytes bytes, device, inode, mode⟩)
  | .unreadable error => .error (.io error)
  | .directory _ _ _ | .other => .error .unsupportedTarget

/-! ## Preparing a set -/

/-- How both kinds of request start: the path is checked, and the target is read below its parent. -/
def reviewTarget (tree : WorkspaceTree) (targetPath : String) :
    Except WorkspaceApplyError (OpenParent × Option WorkspaceFileSnapshot) := do
  let relative ← validateTargetPath targetPath
  let parent ← openParent tree relative
  let base ← readTargetAt E tree parent
  return (parent, base)

def prepareWorkspaceBytes (tree : WorkspaceTree) (targetPath : String) (proposedBytes : List UInt8) :
    Except WorkspaceApplyError WorkspaceApplyPlan :=
  if maxWorkspaceFileBytes < proposedBytes.length then .error .tooLarge
  else do
    let review ← reviewTarget E tree targetPath
    if review.2.any fun snapshot => snapshot.digest = E.sha256Bytes proposedBytes then .error .noChanges
    else .ok {
      targetPath := targetPath
      proposedDigest := E.sha256Bytes proposedBytes
      proposedContent := (encodeWorkspaceContent E proposedBytes).1
      proposedBinaryBase64 := (encodeWorkspaceContent E proposedBytes).2
      delete := false
      base := review.2
      parentDevice := review.1.device
      parentInode := review.1.inode }

def prepareWorkspaceFile (tree : WorkspaceTree) (targetPath proposedContent : String) :
    Except WorkspaceApplyError WorkspaceApplyPlan :=
  prepareWorkspaceBytes E tree targetPath (utf8 proposedContent.toList)

def prepareWorkspaceDeletion (tree : WorkspaceTree) (targetPath : String) :
    Except WorkspaceApplyError WorkspaceApplyPlan := do
  let review ← reviewTarget E tree targetPath
  let base ← okOr review.2 .noChanges
  return {
    targetPath := targetPath
    proposedContent := ""
    proposedBinaryBase64 := none
    proposedDigest := workspaceDeletionDigest E
    delete := true
    base := some base
    parentDevice := review.1.device
    parentInode := review.1.inode }

def prepareRequest (tree : WorkspaceTree) : WorkspaceApplyRequest → Except WorkspaceApplyError WorkspaceApplyPlan
  | .write targetPath proposedContent => prepareWorkspaceFile E tree targetPath proposedContent
  | .writeBytes targetPath proposedBytes => prepareWorkspaceBytes E tree targetPath proposedBytes
  | .delete targetPath => prepareWorkspaceDeletion E tree targetPath

/-- The loop over the requests: `targets` are the texts seen so far. -/
def prepareRequests (tree : WorkspaceTree) (targets : List String) :
    List WorkspaceApplyRequest → Except WorkspaceApplyError (List WorkspaceApplyPlan)
  | [] => .ok []
  | request :: requests =>
      if request.targetPath ∈ targets then .error .invalidPath
      else
        match prepareRequest E tree request with
        | .ok plan => do
            let plans ← prepareRequests tree (request.targetPath :: targets) requests
            return plan :: plans
        | .error .noChanges => prepareRequests tree (request.targetPath :: targets) requests
        | .error error => .error error

/-- The totals are of buffers in memory, so that a total that does not fit a `usize` is past the bound as well. -/
def prepareWorkspaceApplyRequests (tree : WorkspaceTree) (requests : List WorkspaceApplyRequest) :
    Except WorkspaceApplyError WorkspaceApplySetPlan :=
  if requests = [] ∨ maxWorkspaceApplyFiles < requests.length then .error .invalidPath
  else if maxWorkspaceApplyBytes < (requests.map WorkspaceApplyRequest.bytes).sum then .error .tooLarge
  else do
    let plans ← prepareRequests E tree [] requests
    if plans = [] then .error .noChanges
    else if maxWorkspaceApplyBytes < (plans.map WorkspaceApplyPlan.baseBytesLen).sum then .error .tooLarge
    else .ok ⟨plans, workspaceSetDigest E plans⟩

/-! ## Checking a set -/

def invalidProposal (plan : WorkspaceApplyPlan) (proposed : List UInt8) : Bool :=
  if plan.delete then
    plan.base.isNone || !plan.proposedContent.isEmpty || plan.proposedBinaryBase64.isSome ||
      plan.proposedDigest != workspaceDeletionDigest E
  else
    decide (maxWorkspaceFileBytes < proposed.length) || E.sha256Bytes proposed != plan.proposedDigest ||
      plan.proposedBinaryBase64.isSome &&
        (proposed.isEmpty || !plan.proposedContent.isEmpty || (fromUtf8 proposed).isSome ||
          plan.proposedBinaryBase64 != some (E.encode proposed))

def invalidBase (plan : WorkspaceApplyPlan) (base : WorkspaceFileSnapshot) : Bool :=
  decide (maxWorkspaceFileBytes < base.bytesLen) || !isSha256 base.digest ||
    base.binaryBytes.isSome && (base.binaryBytes == some 0 || !base.content.isEmpty) ||
    base.binaryBytes.isNone && E.sha256Bytes (utf8 base.content.toList) != base.digest ||
    !plan.delete && base.digest == plan.proposedDigest

/-- The loop over the plans, with the two totals. -/
def validatePlans (targets : List String) (proposedBytes baseBytes : Nat) :
    List WorkspaceApplyPlan → Except WorkspaceApplyError (Nat × Nat)
  | [] => .ok (proposedBytes, baseBytes)
  | plan :: plans => do
      let _ ← validateTargetPath plan.targetPath
      let proposed ← plan.proposedBytes E
      if plan.targetPath ∈ targets ∨ invalidProposal E plan proposed ∨ plan.base.any (invalidBase E plan) then
        .error .invalidPath
      else
        validatePlans (plan.targetPath :: targets) (proposedBytes + proposed.length) (baseBytes + plan.baseBytesLen)
          plans

def validateWorkspaceApplySet (set : WorkspaceApplySetPlan) : Except WorkspaceApplyError Unit :=
  if set.plans = [] ∨ maxWorkspaceApplyFiles < set.plans.length then .error .invalidPath
  else do
    let totals ← validatePlans E [] 0 0 set.plans
    if maxWorkspaceApplyBytes < totals.1 ∨ maxWorkspaceApplyBytes < totals.2 ∨
        workspaceSetDigest E set.plans ≠ set.resultDigest then
      .error .tooLarge
    else .ok ()

/-! ## What a request leads to -/

/-- The digest of the file a path leads to. -/
def WorkspaceTree.digestAt (tree : WorkspaceTree) (path : List Char) : Option String :=
  match tree.entry ((components path).filterMap Component.name?) with
  | .file _ _ _ bytes => some (E.sha256Bytes bytes)
  | _ => none

/-- The digest of what the request wants there; a deletion wants no file. -/
def WorkspaceApplyRequest.proposedDigest : WorkspaceApplyRequest → Option String
  | .write _ proposedContent => some (E.sha256Bytes (utf8 proposedContent.toList))
  | .writeBytes _ proposedBytes => some (E.sha256Bytes proposedBytes)
  | .delete _ => none

/-- The workspace does not hold what the request wants. -/
def Changes (tree : WorkspaceTree) (request : WorkspaceApplyRequest) : Prop :=
  tree.digestAt E request.targetPath.toList ≠ request.proposedDigest E

instance (tree : WorkspaceTree) (request : WorkspaceApplyRequest) : Decidable (Changes E tree request) :=
  inferInstanceAs (Decidable (_ ≠ _))

variable {E} {tree : WorkspaceTree}

theorem validateTargetPath_ok {value : String} {relative : List Char} (h : validateTargetPath value = .ok relative) :
    relative = value.toList ∧ IsRelative value.toList := by
  unfold validateTargetPath at h
  split at h
  · exact nomatch h
  split at h
  · exact nomatch h
  split at h
  · exact nomatch h
  rename_i hnames hne
  refine ⟨(Except.ok.inj h).symm, hne, fun component hcomponent => ?_⟩
  rw [Bool.not_eq_true, List.any_eq_false] at hnames
  have hname := hnames component hcomponent
  cases hname? : component.name? with
  | some name => rfl
  | none => rw [hname?] at hname; exact absurd rfl hname

theorem descend_ok {above path : List (List Char)} {way : List Component} (h : descend tree above way = .ok path) :
    path = above ++ way.filterMap Component.name? := by
  induction way generalizing above with
  | nil => rw [List.filterMap_nil, List.append_nil]; exact (Except.ok.inj h).symm
  | cons component way ih =>
      unfold descend at h
      cases hname : component.name? with
      | none => rw [hname] at h; exact nomatch h
      | some name =>
          rw [hname] at h
          dsimp only at h
          split at h
          · rw [ih h, List.filterMap_cons_some hname, List.append_assoc, List.singleton_append]
          · exact nomatch h

theorem openParent_ok {relative : List Char} {parent : OpenParent} (h : openParent tree relative = .ok parent) :
    parent.path ++ [parent.fileName] = (components relative).filterMap Component.name? := by
  unfold openParent at h
  simp only [bind_eq_ok, okOr_eq_ok, pure_eq_ok] at h
  obtain ⟨path, hpath, directory, -, fileName, hname, rfl⟩ := h
  obtain ⟨last, hlast, hname⟩ := Option.bind_eq_some_iff.mp hname
  obtain ⟨before, hcomponents⟩ := List.getLast?_eq_some_iff.mp hlast
  rw [hcomponents, List.dropLast_concat] at hpath
  rw [descend_ok hpath, hcomponents, List.nil_append, List.filterMap_append,
    List.filterMap_cons_some hname, List.filterMap_nil]

theorem readTargetAt_ok {parent : OpenParent} {base : Option WorkspaceFileSnapshot} {relative : List Char}
    (h : readTargetAt E tree parent = .ok base)
    (hparent : parent.path ++ [parent.fileName] = (components relative).filterMap Component.name?) :
    base.map WorkspaceFileSnapshot.digest = tree.digestAt E relative := by
  unfold readTargetAt at h
  unfold WorkspaceTree.digestAt
  rw [← hparent]
  split at h
  · rename_i hentry
    rw [hentry, ← Except.ok.inj h]
    rfl
  · rename_i hentry
    rw [hentry]
    split at h
    · exact nomatch h
    · split at h <;> rw [← Except.ok.inj h] <;> rfl
  · exact nomatch h
  · exact nomatch h
  · exact nomatch h

/-- What a review says of the target, in terms of the tree. -/
theorem reviewTarget_ok {targetPath : String} {review : OpenParent × Option WorkspaceFileSnapshot}
    (h : reviewTarget E tree targetPath = .ok review) :
    IsRelative targetPath.toList ∧ review.2.map WorkspaceFileSnapshot.digest = tree.digestAt E targetPath.toList := by
  unfold reviewTarget at h
  simp only [bind_eq_ok, pure_eq_ok] at h
  obtain ⟨relative, hvalid, parent, hparent, base, hbase, rfl⟩ := h
  obtain ⟨rfl, hrelative⟩ := validateTargetPath_ok hvalid
  exact ⟨hrelative, readTargetAt_ok hbase (openParent_ok hparent)⟩

theorem validateTargetPath_ne_noChanges (value : String) : validateTargetPath value ≠ .error .noChanges := by
  unfold validateTargetPath
  split
  · simp
  split
  · simp
  split <;> simp

theorem descend_ne_noChanges (above : List (List Char)) (way : List Component) :
    descend tree above way ≠ .error .noChanges := by
  induction way generalizing above with
  | nil => simp [descend]
  | cons component way ih =>
      unfold descend
      split
      · simp
      · split
        · exact ih _
        · simp

theorem openDirectory_ne_noChanges (path : List (List Char)) : openDirectory tree path ≠ .error .noChanges := by
  unfold openDirectory
  split
  · simp
  · split
    · simp
    · split <;> simp
  · split <;> simp

theorem openParent_ne_noChanges (relative : List Char) : openParent tree relative ≠ .error .noChanges := by
  unfold openParent
  refine bind_ne_error (descend_ne_noChanges [] _) fun path => ?_
  refine bind_ne_error (openDirectory_ne_noChanges path) fun directory => ?_
  refine bind_ne_error ?_ fun fileName => by simp [pure, Except.pure]
  cases (components relative).getLast?.bind Component.name? <;> simp [okOr]

theorem readTargetAt_ne_noChanges (parent : OpenParent) : readTargetAt E tree parent ≠ .error .noChanges := by
  unfold readTargetAt
  split
  · simp
  · split
    · simp
    · split <;> simp
  · simp
  · simp
  · simp

/-- A review fails for a reason of its own. -/
theorem reviewTarget_ne_noChanges (targetPath : String) : reviewTarget E tree targetPath ≠ .error .noChanges := by
  unfold reviewTarget
  refine bind_ne_error (validateTargetPath_ne_noChanges targetPath) fun relative => ?_
  refine bind_ne_error (openParent_ne_noChanges relative) fun parent => ?_
  exact bind_ne_error (readTargetAt_ne_noChanges parent) fun base => by simp [pure, Except.pure]

/-! ## One request -/

/-- What preparing a request does: it plans the request when that changes something, and says so when not. -/
structure Prepares (E : WorkspaceEncodings) (tree : WorkspaceTree) (request : WorkspaceApplyRequest)
    (prepared : Except WorkspaceApplyError WorkspaceApplyPlan) : Prop where
  planned : ∀ plan, prepared = .ok plan →
    plan.targetPath = request.targetPath ∧ IsRelative request.targetPath.toList ∧ Changes E tree request
  unchanged : prepared = .error .noChanges → ¬Changes E tree request

theorem Prepares.of_error {request : WorkspaceApplyRequest} {error : WorkspaceApplyError} (h : error ≠ .noChanges) :
    Prepares E tree request (.error error) :=
  ⟨fun _ hplan => (nomatch hplan), fun herror => absurd (Except.error.inj herror) h⟩

theorem prepares_bytes (targetPath : String) (proposedBytes : List UInt8) :
    Prepares E tree (.writeBytes targetPath proposedBytes) (prepareWorkspaceBytes E tree targetPath proposedBytes) := by
  unfold prepareWorkspaceBytes
  split
  · exact .of_error (by decide)
  cases hreview : reviewTarget E tree targetPath with
  | error error =>
      refine Prepares.of_error fun herror => ?_
      exact reviewTarget_ne_noChanges targetPath (herror ▸ hreview)
  | ok review =>
      obtain ⟨hrelative, hdigest⟩ := reviewTarget_ok hreview
      -- the request changes nothing exactly when the base has the proposed digest
      have hsame : (review.2.any fun snapshot => snapshot.digest = E.sha256Bytes proposedBytes) = true ↔
          ¬Changes E tree (.writeBytes targetPath proposedBytes) := by
        show _ ↔ ¬tree.digestAt E targetPath.toList ≠ some (E.sha256Bytes proposedBytes)
        rw [← hdigest, not_not]
        cases review.2 <;> simp
      constructor
      · intro plan h
        change (if _ then _ else _) = _ at h
        split at h
        · exact nomatch h
        · rename_i hne
          rw [← Except.ok.inj h]
          exact ⟨rfl, hrelative, not_not.mp fun hunchanged => hne (hsame.mpr hunchanged)⟩
      · intro h
        change (if _ then _ else _) = _ at h
        split at h
        · rename_i heq
          exact hsame.mp heq
        · exact nomatch h

theorem prepares_deletion (targetPath : String) :
    Prepares E tree (.delete targetPath) (prepareWorkspaceDeletion E tree targetPath) := by
  unfold prepareWorkspaceDeletion
  cases hreview : reviewTarget E tree targetPath with
  | error error =>
      refine Prepares.of_error fun herror => ?_
      exact reviewTarget_ne_noChanges targetPath (herror ▸ hreview)
  | ok review =>
      obtain ⟨parent, base⟩ := review
      obtain ⟨hrelative, hdigest⟩ := reviewTarget_ok hreview
      have hchanges : Changes E tree (.delete targetPath) ↔ base ≠ none := by
        show tree.digestAt E targetPath.toList ≠ none ↔ _
        rw [← hdigest]
        cases base <;> simp
      cases base with
      | none => exact ⟨fun _ h => (nomatch h), fun _ => fun h => hchanges.mp h rfl⟩
      | some snapshot =>
          refine ⟨fun plan h => ?_, fun h => (nomatch h)⟩
          rw [← Except.ok.inj h]
          exact ⟨rfl, hrelative, hchanges.mpr (by simp)⟩

theorem prepares_request (request : WorkspaceApplyRequest) : Prepares E tree request (prepareRequest E tree request) := by
  cases request with
  | write targetPath proposedContent =>
      obtain ⟨hplanned, hunchanged⟩ := prepares_bytes targetPath (utf8 proposedContent.toList)
      exact ⟨hplanned, hunchanged⟩
  | writeBytes targetPath proposedBytes => exact prepares_bytes targetPath proposedBytes
  | delete targetPath => exact prepares_deletion targetPath

/-! ## Sets -/

/-- No two plans of the set denote the same file. -/
def DistinctTargets (set : WorkspaceApplySetPlan) : Prop :=
  set.plans.Pairwise fun plan plan' => components plan.targetPath.toList ≠ components plan'.targetPath.toList

instance (set : WorkspaceApplySetPlan) : Decidable (DistinctTargets set) := inferInstanceAs (Decidable (List.Pairwise _ _))

/-- No target is another one respelled. -/
def SpelledApart (targets : List String) : Prop :=
  targets.Pairwise fun target target' => ¬Respells target.toList target'.toList

theorem distinctTargets_iff_spelledApart {set : WorkspaceApplySetPlan}
    (h : ∀ plan ∈ set.plans, IsRelative plan.targetPath.toList) :
    DistinctTargets set ↔ SpelledApart (set.plans.map WorkspaceApplyPlan.targetPath) := by
  unfold DistinctTargets SpelledApart
  rw [List.pairwise_map]
  refine List.Pairwise.iff_of_mem fun {plan plan'} hplan hplan' => ?_
  exact not_congr (components_eq_iff (h plan hplan) (h plan' hplan'))

/-- The plans of a prepared list are those of the requests that change something, in their order. -/
theorem prepareRequests_ok {targets : List String} {requests : List WorkspaceApplyRequest}
    {plans : List WorkspaceApplyPlan} (h : prepareRequests E tree targets requests = .ok plans) :
    plans.map WorkspaceApplyPlan.targetPath =
        (requests.filter fun request => Changes E tree request).map WorkspaceApplyRequest.targetPath ∧
      ∀ plan ∈ plans, IsRelative plan.targetPath.toList := by
  induction requests generalizing targets plans with
  | nil =>
      obtain rfl := Except.ok.inj h
      exact ⟨rfl, List.forall_mem_nil _⟩
  | cons request requests ih =>
      obtain ⟨hplanned, hunchanged⟩ := prepares_request request
      unfold prepareRequests at h
      split at h
      · cases h
      split at h
      · rename_i plan hplan
        obtain ⟨htarget, hrelative, hchanges⟩ := hplanned plan hplan
        simp only [bind_eq_ok, pure_eq_ok] at h
        obtain ⟨rest, hrest, rfl⟩ := h
        obtain ⟨hmap, hall⟩ := ih hrest
        rw [List.filter_cons_of_pos (by simpa using hchanges), List.map_cons, List.map_cons, hmap, htarget]
        exact ⟨rfl, List.forall_mem_cons.mpr ⟨htarget ▸ hrelative, hall⟩⟩
      · rename_i hsame
        rw [List.filter_cons_of_neg (by simpa using hunchanged hsame)]
        exact ih h
      · cases h

theorem prepared_targets {requests : List WorkspaceApplyRequest} {set : WorkspaceApplySetPlan}
    (h : prepareWorkspaceApplyRequests E tree requests = .ok set) :
    set.plans.map WorkspaceApplyPlan.targetPath =
        (requests.filter fun request => Changes E tree request).map WorkspaceApplyRequest.targetPath ∧
      ∀ plan ∈ set.plans, IsRelative plan.targetPath.toList := by
  unfold prepareWorkspaceApplyRequests at h
  split at h
  · exact nomatch h
  split at h
  · exact nomatch h
  rw [bind_eq_ok] at h
  obtain ⟨plans, hplans, h⟩ := h
  split at h
  · exact nomatch h
  split at h
  · exact nomatch h
  rw [← Except.ok.inj h]
  exact prepareRequests_ok hplans

theorem validatePlans_ok {targets : List String} {proposedBytes baseBytes : Nat} {plans : List WorkspaceApplyPlan}
    {totals : Nat × Nat} (h : validatePlans E targets proposedBytes baseBytes plans = .ok totals) :
    ∀ plan ∈ plans, IsRelative plan.targetPath.toList := by
  induction plans generalizing targets proposedBytes baseBytes with
  | nil => exact List.forall_mem_nil _
  | cons plan plans ih =>
      unfold validatePlans at h
      simp only [bind_eq_ok] at h
      obtain ⟨relative, hrelative, proposed, -, h⟩ := h
      split at h
      · cases h
      · exact List.forall_mem_cons.mpr ⟨(validateTargetPath_ok hrelative).2, ih h⟩

theorem validated_relative {set : WorkspaceApplySetPlan} (h : validateWorkspaceApplySet E set = .ok ()) :
    ∀ plan ∈ set.plans, IsRelative plan.targetPath.toList := by
  unfold validateWorkspaceApplySet at h
  split at h
  · exact nomatch h
  rw [bind_eq_ok] at h
  obtain ⟨totals, htotals, -⟩ := h
  exact validatePlans_ok htotals

variable (E) in
/-- **Main result.** The plans of a set denote different files just when no target that changes something is another
such target respelled, for the sets that are prepared and for those that are accepted. -/
theorem distinctTargets_iff :
    (∀ (tree : WorkspaceTree) (requests : List WorkspaceApplyRequest) (set : WorkspaceApplySetPlan),
      prepareWorkspaceApplyRequests E tree requests = .ok set →
        (DistinctTargets set ↔ SpelledApart
          ((requests.filter fun request => Changes E tree request).map WorkspaceApplyRequest.targetPath))) ∧
    ∀ set : WorkspaceApplySetPlan, validateWorkspaceApplySet E set = .ok () →
      (DistinctTargets set ↔ SpelledApart (set.plans.map WorkspaceApplyPlan.targetPath)) := by
  constructor
  · intro tree requests set h
    obtain ⟨htargets, hrelative⟩ := prepared_targets h
    rw [distinctTargets_iff_spelledApart hrelative, htargets]
  · intro set h
    exact distinctTargets_iff_spelledApart (validated_relative h)

/-! ## A target spelled twice -/

/-- The digests of the texts below. -/
def sampleEncodings : WorkspaceEncodings where
  sha256Bytes bytes :=
    if bytes = ascii "one" then "7692c3ad3540bb803c020b3aee66cd8887123234ea0c6e7143c0add73ff431ed"
    else if bytes = ascii "two" then "3fc4ccfe745870e2c0d99f71f30ff0656c8dedd41cc1d7d3d376b0dbe685e2f3"
    else if bytes.length = 185 then "225e9d4be672836125162b49f1f3d99800bc86d56e601c2038fa7535d5027ab4"
    else "8c15a5c712a6acf0bec05ee96f1350268f92bf115b74c9f29a0c17d04015a8e9"
  encode _ := ""
  decode _ := none

/-- A workspace with one empty directory, `a`. -/
def sampleTree : WorkspaceTree where
  canonical := true
  entry
    | [] => .directory 1 2 true
    | [name] => if name = "a".toList then .directory 1 3 true else .absent
    | _ => .absent

def samplePlan (targetPath proposedContent proposedDigest : String) : WorkspaceApplyPlan where
  targetPath := targetPath
  proposedContent := proposedContent
  proposedBinaryBase64 := none
  proposedDigest := proposedDigest
  delete := false
  base := none
  parentDevice := 1
  parentInode := 3

def sampleSet (targetPath' resultDigest : String) : WorkspaceApplySetPlan where
  plans := [samplePlan "a/b" "one" "7692c3ad3540bb803c020b3aee66cd8887123234ea0c6e7143c0add73ff431ed",
    samplePlan targetPath' "two" "3fc4ccfe745870e2c0d99f71f30ff0656c8dedd41cc1d7d3d376b0dbe685e2f3"]
  resultDigest := resultDigest

def respelledSet : WorkspaceApplySetPlan := sampleSet "a//b" "225e9d4be672836125162b49f1f3d99800bc86d56e601c2038fa7535d5027ab4"

/-- `a/b` and `a//b` are one file, and both checks let them through as two targets. -/
theorem respelled_target_prepared :
    prepareWorkspaceApplyRequests sampleEncodings sampleTree [.write "a/b" "one", .write "a//b" "two"] =
        .ok respelledSet ∧
      validateWorkspaceApplySet sampleEncodings respelledSet = .ok () ∧ ¬DistinctTargets respelledSet := by
  decide +kernel

/-- Two targets that are not spelled alike. -/
theorem distinctTargets_of_two_names :
    DistinctTargets (sampleSet "a/c" "8c15a5c712a6acf0bec05ee96f1350268f92bf115b74c9f29a0c17d04015a8e9") := by
  have happart : SpelledApart ["a/b", "a/c"] := by
    refine List.pairwise_pair.mpr fun hrespells => ?_
    exact absurd hrespells.meaningful_eq (by decide)
  refine ((distinctTargets_iff sampleEncodings).1 sampleTree [.write "a/b" "one", .write "a/c" "two"] _
    (by decide +kernel)).mpr ?_
  exact happart

end HyperTerm.Daemon.WorkspaceApply
