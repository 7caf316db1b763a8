import HyperTerm.Daemon.WorkspaceDiff
import HyperTerm.Lib.CharBoundary

/-!
# The preview of an isolated result

Before the result of an isolated task is accepted its changes are shown to the user, as hunks with their patches. All the
patches of one answer share a budget of bytes, and what does not fit is cut off and said to be.

* `utf8PrefixLen` : how much of a patch fits;
* `tier2Hunks`, `tier2Changes`, `tier2PreviewResponse` : the two loops over hunks and changes, and the answer;
* `ShowsHunk`, `ShowsChange` : what of a hunk or a change may be left out, and when;
* `tier2PreviewResponse_shown` : the budget is kept, and nothing is left out in silence.
-/

namespace HyperTerm.Daemon.Tier2Preview
open HyperTerm.Protocol HyperTerm.Lib HyperTerm.Daemon.WorkspaceDiff

def maxTier2PreviewChanges : Nat := 32

def maxTier2PreviewPatchBytes : Nat := 64 * 1024

structure IsolatedAcceptanceChange where
  targetPath : String
  baseDigest : Option String
  proposedDigest : String
  deleted : Bool
  binary : Bool
  baseBytes : Nat
  proposedBytes : Nat
  before : String
  after : String

structure IsolatedAcceptancePreview where
  sourceOperationId : OperationId
  resultDigest : String
  targetPaths : List String
  changes : List IsolatedAcceptanceChange

structure AgentTier2PreviewHunkResponse where
  id : String
  baseStart : Nat
  baseLines : Nat
  proposedStart : Nat
  proposedLines : Nat
  patch : String
  truncated : Bool
  deriving DecidableEq

structure AgentTier2PreviewChangeResponse where
  targetPath : String
  baseDigest : Option String
  proposedDigest : String
  deleted : Bool
  binary : Bool
  baseBytes : Nat
  proposedBytes : Nat
  hunks : List AgentTier2PreviewHunkResponse
  truncated : Bool
  deriving DecidableEq

structure AgentTier2PreviewResponse where
  sourceOperationId : OperationId
  resultDigest : String
  changes : List AgentTier2PreviewChangeResponse
  truncated : Bool
  deriving DecidableEq

/-! ## The two loops -/

def utf8PrefixLen (value : String) (capacity : Nat) : Nat :=
  boundaryBelow value.toList (min value.utf8ByteSize capacity)

/-- `value[..end]`, which panics inside a character. -/
def sliceTo (value : String) (stop : Nat) : Option String :=
  (splitAtByte value.toList stop).map fun cut => String.ofList cut.1

def hunkResponse (hunk : WorkspaceDiffHunk) (patch : String) (truncated : Bool) : AgentTier2PreviewHunkResponse :=
  { id := hunk.id, baseStart := hunk.baseStart, baseLines := hunk.baseLines, proposedStart := hunk.proposedStart,
    proposedLines := hunk.proposedLines, patch, truncated }

/-- What one of the loops leaves: what is shown, the bytes that remain, and whether something was cut off. -/
structure Shown (α : Type) where
  items : List α
  remaining : Nat
  truncated : Bool

def tier2Hunks : Nat → List WorkspaceDiffHunk → Option (Shown AgentTier2PreviewHunkResponse)
  | remaining, [] => some ⟨[], remaining, false⟩
  | remaining, hunk :: hunks => do
      let retainedBytes := utf8PrefixLen hunk.patch remaining
      let truncated := decide (retainedBytes < hunk.patch.utf8ByteSize)
      let patch ← sliceTo hunk.patch retainedBytes
      let response := hunkResponse hunk patch truncated
      if truncated ∨ (remaining - retainedBytes = 0 ∧ hunks ≠ []) then
        return ⟨[response], remaining - retainedBytes, true⟩
      else
        let rest ← tier2Hunks (remaining - retainedBytes) hunks
        return { rest with items := response :: rest.items }

variable (lib : DiffLibrary) (sha256 : List UInt8 → String)

/-- A binary change has no hunks. -/
def IsolatedAcceptanceChange.hunks (change : IsolatedAcceptanceChange) : Option (List WorkspaceDiffHunk) :=
  if change.binary then some []
  else (reviewWorkspaceDiff lib sha256 change.targetPath change.before change.after).map WorkspaceDiffReview.hunks

def changeResponse (change : IsolatedAcceptanceChange) (hunks : List AgentTier2PreviewHunkResponse) (truncated : Bool) :
    AgentTier2PreviewChangeResponse :=
  { targetPath := change.targetPath, baseDigest := change.baseDigest, proposedDigest := change.proposedDigest,
    deleted := change.deleted, binary := change.binary, baseBytes := change.baseBytes,
    proposedBytes := change.proposedBytes, hunks, truncated }

def tier2Changes : Nat → List IsolatedAcceptanceChange → Option (Shown AgentTier2PreviewChangeResponse)
  | remaining, [] => some ⟨[], remaining, false⟩
  | remaining, change :: changes => do
      let hunks ← change.hunks lib sha256
      let shown ← tier2Hunks remaining hunks
      let response := changeResponse change shown.items shown.truncated
      if shown.remaining = 0 then return ⟨[response], 0, true⟩
      else
        let rest ← tier2Changes shown.remaining changes
        return { rest with items := response :: rest.items, truncated := shown.truncated || rest.truncated }

def tier2PreviewResponse (preview : IsolatedAcceptancePreview) : Option AgentTier2PreviewResponse := do
  let shown ← tier2Changes lib sha256 maxTier2PreviewPatchBytes (preview.changes.take maxTier2PreviewChanges)
  return {
    sourceOperationId := preview.sourceOperationId
    resultDigest := preview.resultDigest
    changes := shown.items
    truncated := decide (maxTier2PreviewChanges < preview.changes.length) || shown.truncated }

/-! ## What is shown -/

def patchBytes (hunks : List AgentTier2PreviewHunkResponse) : Nat :=
  (hunks.map fun hunk => hunk.patch.utf8ByteSize).sum

/-- A hunk with the whole of its patch. -/
def fullHunk (hunk : WorkspaceDiffHunk) : AgentTier2PreviewHunkResponse := hunkResponse hunk hunk.patch false

/-- A hunk is shown with a text its patch starts with, and as truncated if the patch goes on. -/
def ShowsHunk (hunk : WorkspaceDiffHunk) (shown : AgentTier2PreviewHunkResponse) : Prop :=
  ∃ rest, hunk.patch = shown.patch ++ rest ∧ shown = hunkResponse hunk shown.patch (decide (rest ≠ ""))

/-- The first of the hunks are shown, and nothing is said to be cut off exactly if they are all there in full. -/
structure ShowsHunks (hunks : List WorkspaceDiffHunk) (shown : List AgentTier2PreviewHunkResponse) (truncated : Bool) :
    Prop where
  each : List.Forall₂ ShowsHunk (hunks.take shown.length) shown
  complete : truncated = false ↔ shown = hunks.map fullHunk

/-- A change is shown with its own data and hunks of its review. -/
def ShowsChange (change : IsolatedAcceptanceChange) (shown : AgentTier2PreviewChangeResponse) : Prop :=
  shown = changeResponse change shown.hunks shown.truncated ∧
    ∃ hunks, change.hunks lib sha256 = some hunks ∧ ShowsHunks hunks shown.hunks shown.truncated

/-- The first of the changes are shown, and where nothing is said to be cut off they are all there. -/
structure ShowsChanges (changes : List IsolatedAcceptanceChange) (shown : List AgentTier2PreviewChangeResponse)
    (truncated : Bool) : Prop where
  each : List.Forall₂ (ShowsChange lib sha256) (changes.take shown.length) shown
  complete : truncated = false → shown.length = changes.length ∧ ∀ response ∈ shown, response.truncated = false

/-- A change with all hunks of its review, each with the whole of its patch. -/
def ShowsInFull (change : IsolatedAcceptanceChange) (shown : AgentTier2PreviewChangeResponse) : Prop :=
  ∃ hunks, change.hunks lib sha256 = some hunks ∧ shown = changeResponse change (hunks.map fullHunk) false

/-! ## One patch -/

theorem isCharBoundary_utf8PrefixLen (value : String) (capacity : Nat) :
    isCharBoundary value.toList (utf8PrefixLen value capacity) = true :=
  (boundaryBelow_spec value.toList _).1

theorem utf8PrefixLen_le (value : String) (capacity : Nat) : utf8PrefixLen value capacity ≤ capacity :=
  Nat.le_trans (boundaryBelow_spec value.toList _).2.1 (Nat.min_le_right _ _)

theorem sliceTo_of_isCharBoundary {value : String} {stop : Nat} (h : isCharBoundary value.toList stop = true) :
    ∃ text rest, sliceTo value stop = some text ∧ value = text ++ rest ∧ text.utf8ByteSize = stop := by
  obtain ⟨before, after, hvalue, hsize⟩ := isCharBoundary_iff.1 h
  refine ⟨String.ofList before, String.ofList after, ?_, ?_, ?_⟩
  · unfold sliceTo
    rw [splitAtByte_eq_some.2 ⟨hvalue, hsize⟩]
    rfl
  · rw [← String.ofList_append, ← hvalue, String.ofList_toList]
  · rw [utf8ByteSize_ofList, hsize]

/-! ## The hunks of a change -/

theorem tier2Hunks_shows (remaining : Nat) (hunks : List WorkspaceDiffHunk) :
    ∃ shown, tier2Hunks remaining hunks = some shown ∧ patchBytes shown.items + shown.remaining = remaining ∧
      ShowsHunks hunks shown.items shown.truncated := by
  induction hunks generalizing remaining with
  | nil => exact ⟨_, rfl, Nat.zero_add remaining, List.Forall₂.nil, iff_of_true rfl rfl⟩
  | cons hunk hunks ih =>
      have hle := utf8PrefixLen_le hunk.patch remaining
      obtain ⟨text, rest, hslice, hpatch, hsize⟩ :=
        sliceTo_of_isCharBoundary (isCharBoundary_utf8PrefixLen hunk.patch remaining)
      have hcut : utf8PrefixLen hunk.patch remaining < hunk.patch.utf8ByteSize ↔ rest ≠ "" := by
        rw [← hsize, hpatch, String.utf8ByteSize_append, ne_eq, ← String.utf8ByteSize_eq_zero_iff]
        omega
      have hshows : ShowsHunk hunk (hunkResponse hunk text (decide (rest ≠ ""))) := ⟨rest, hpatch, rfl⟩
      rw [tier2Hunks, hslice, decide_eq_decide.2 hcut]
      dsimp only [Option.bind_eq_bind, Option.bind_some, Option.pure_def]
      by_cases hstop : rest ≠ "" ∨ (remaining - utf8PrefixLen hunk.patch remaining = 0 ∧ hunks ≠ [])
      · refine ⟨_, if_pos (by simpa using hstop), ?_, ?_, ?_⟩
        · show text.utf8ByteSize + 0 + (remaining - utf8PrefixLen hunk.patch remaining) = remaining
          omega
        · exact List.Forall₂.cons hshows List.Forall₂.nil
        · refine iff_of_false Bool.noConfusion fun heq => ?_
          have hlists : [hunkResponse hunk text (decide (rest ≠ ""))] = fullHunk hunk :: hunks.map fullHunk := heq
          obtain ⟨hhead, htail⟩ := List.cons_eq_cons.1 hlists
          rcases hstop with hrest | ⟨-, hmore⟩
          · have hflag : decide (rest ≠ "") = false := congrArg AgentTier2PreviewHunkResponse.truncated hhead
            exact of_decide_eq_false hflag hrest
          · exact hmore (List.map_eq_nil_iff.1 htail.symm)
      · obtain ⟨shown, hshown, hbytes, hall⟩ := ih (remaining - utf8PrefixLen hunk.patch remaining)
        obtain rfl : rest = "" := not_not.1 fun hrest => hstop (Or.inl hrest)
        rw [String.append_empty] at hpatch
        rw [if_neg (by simpa using hstop), hshown]
        refine ⟨_, rfl, ?_, ?_, ?_⟩
        · show text.utf8ByteSize + patchBytes shown.items + shown.remaining = remaining
          omega
        · exact List.Forall₂.cons hshows hall.each
        · rw [hall.complete, List.map_cons, ← hpatch]
          exact ⟨fun heq => by rw [heq]; rfl, fun heq => (List.cons_eq_cons.1 heq).2⟩

/-! ## The changes of a result -/

variable {lib sha256}

theorem exists_hunks {change : IsolatedAcceptanceChange}
    (h : change.binary = false → lib.Sound change.before change.after) :
    ∃ hunks, change.hunks lib sha256 = some hunks := by
  unfold IsolatedAcceptanceChange.hunks
  cases hbinary : change.binary with
  | true => exact ⟨[], rfl⟩
  | false =>
      obtain ⟨analysis, hanalysis⟩ := (h hbinary).analyzed sha256 change.targetPath
      unfold reviewWorkspaceDiff
      rw [hanalysis.analyze_eq]
      exact ⟨_, rfl⟩

theorem tier2Changes_shows (remaining : Nat) {changes : List IsolatedAcceptanceChange}
    (h : ∀ change ∈ changes, ∃ hunks, change.hunks lib sha256 = some hunks) :
    ∃ shown, tier2Changes lib sha256 remaining changes = some shown ∧
      (shown.items.map fun response => patchBytes response.hunks).sum + shown.remaining = remaining ∧
      ShowsChanges lib sha256 changes shown.items shown.truncated := by
  induction changes generalizing remaining with
  | nil => exact ⟨_, rfl, Nat.zero_add remaining, List.Forall₂.nil, fun _ => ⟨rfl, fun _ h => absurd h List.not_mem_nil⟩⟩
  | cons change changes ih =>
      obtain ⟨hunks, hhunks⟩ := h change List.mem_cons_self
      obtain ⟨shown, hshown, hbytes, hall⟩ := tier2Hunks_shows remaining hunks
      have hchange : ShowsChange lib sha256 change (changeResponse change shown.items shown.truncated) :=
        ⟨rfl, hunks, hhunks, hall⟩
      rw [tier2Changes, hhunks]
      dsimp only [Option.bind_eq_bind, Option.bind_some, Option.pure_def]
      rw [hshown]
      dsimp only [Option.bind_some]
      by_cases hzero : shown.remaining = 0
      · refine ⟨_, if_pos hzero, ?_, List.Forall₂.cons hchange List.Forall₂.nil, Bool.noConfusion⟩
        show patchBytes shown.items + 0 + 0 = remaining
        omega
      · obtain ⟨rest, hrest, hsum, hrestAll⟩ :=
          ih shown.remaining fun change' hmem => h change' (List.mem_cons_of_mem change hmem)
        rw [if_neg hzero, hrest]
        refine ⟨_, rfl, ?_, List.Forall₂.cons hchange hrestAll.each, ?_⟩
        · show patchBytes shown.items + (rest.items.map fun response => patchBytes response.hunks).sum + rest.remaining =
            remaining
          omega
        · intro hflag
          obtain ⟨hhere, hthere⟩ := Bool.or_eq_false_iff.1 hflag
          obtain ⟨hlength, hnone⟩ := hrestAll.complete hthere
          refine ⟨congrArg (· + 1) hlength, fun response hmem => ?_⟩
          rcases List.mem_cons.1 hmem with rfl | hmem
          · exact hhere
          · exact hnone response hmem

/-- What is not said to be cut off is there in full. -/
theorem ShowsChange.inFull {change : IsolatedAcceptanceChange} {shown : AgentTier2PreviewChangeResponse}
    (h : ShowsChange lib sha256 change shown) (hflag : shown.truncated = false) :
    ShowsInFull lib sha256 change shown := by
  obtain ⟨hdata, hunks, hhunks, hall⟩ := h
  refine ⟨hunks, hhunks, ?_⟩
  rw [← hall.complete.1 hflag, ← hflag]
  exact hdata

theorem forall₂_inFull {changes : List IsolatedAcceptanceChange} {shown : List AgentTier2PreviewChangeResponse}
    (h : List.Forall₂ (ShowsChange lib sha256) changes shown) (hflags : ∀ response ∈ shown, response.truncated = false) :
    List.Forall₂ (ShowsInFull lib sha256) changes shown := by
  induction h with
  | nil => exact List.Forall₂.nil
  | cons hchange _ ih =>
      exact List.Forall₂.cons (hchange.inFull (hflags _ List.mem_cons_self))
        (ih fun response hmem => hflags response (List.mem_cons_of_mem _ hmem))

/-- **Main result.** The patches that are shown fit into the budget, each is a text that its hunk's patch starts with, and
where the answer is not said to be truncated every change is there with all its hunks in full. -/
theorem tier2PreviewResponse_shown (preview : IsolatedAcceptancePreview)
    (h : ∀ change ∈ preview.changes, change.binary = false → lib.Sound change.before change.after) :
    ∃ response, tier2PreviewResponse lib sha256 preview = some response ∧
      (response.changes.map fun change => patchBytes change.hunks).sum ≤ 64 * 1024 ∧
      List.Forall₂ (ShowsChange lib sha256) (preview.changes.take response.changes.length) response.changes ∧
      (response.truncated = false → List.Forall₂ (ShowsInFull lib sha256) preview.changes response.changes) := by
  have hhunks (change : IsolatedAcceptanceChange) (hmem : change ∈ preview.changes.take maxTier2PreviewChanges) :
      ∃ hunks, change.hunks lib sha256 = some hunks :=
    exists_hunks (h change (List.mem_of_mem_take hmem))
  obtain ⟨shown, hshown, hbytes, hall⟩ := tier2Changes_shows maxTier2PreviewPatchBytes hhunks
  have htake : (preview.changes.take maxTier2PreviewChanges).take shown.items.length =
      preview.changes.take shown.items.length := by
    have hlength := hall.each.length_eq
    rw [List.length_take, List.length_take] at hlength
    have hle : shown.items.length ≤ maxTier2PreviewChanges := by omega
    rw [List.take_take, Nat.min_eq_left hle]
  have heach := hall.each
  rw [htake] at heach
  unfold tier2PreviewResponse
  rw [hshown]
  refine ⟨_, rfl, ?_, heach, fun hflag => ?_⟩
  · show (shown.items.map fun change => patchBytes change.hunks).sum ≤ maxTier2PreviewPatchBytes
    omega
  · obtain ⟨hfew, hcut⟩ := Bool.or_eq_false_iff.1 hflag
    obtain ⟨hcount, hnone⟩ := hall.complete hcut
    -- No change is left over: neither the limit on their number nor the budget ended the list.
    have hshort : preview.changes.length ≤ maxTier2PreviewChanges := Nat.not_lt.1 (of_decide_eq_false hfew)
    rw [hcount, List.take_of_length_le hshort, List.take_length] at heach
    exact forall₂_inFull heach hnone

def sampleChange : IsolatedAcceptanceChange where
  targetPath := "notes.txt"
  baseDigest := some "d13cdebce7d153ea71d1a88604741c8f602a3749d8d5ebfe63a37652f8abc3c0"
  proposedDigest := "9dca51dbf8eb139fd787c769c32950caa952f55078f813485a02de7d00fb8b14"
  deleted := false
  binary := false
  baseBytes := 32
  proposedBytes := 32
  before := sampleBefore
  after := sampleAfter

/-- Two changes of one file. -/
theorem tier2PreviewResponse_shown_notes :
    ∃ response, tier2PreviewResponse sampleLibrary sampleSha256 ⟨⟨⟨7⟩⟩, "", ["notes.txt"], [sampleChange, sampleChange]⟩ =
        some response ∧
      (response.changes.map fun change => patchBytes change.hunks).sum ≤ 64 * 1024 := by
  have hsound (change : IsolatedAcceptanceChange) (hmem : change ∈ [sampleChange, sampleChange])
      (_ : change.binary = false) : sampleLibrary.Sound change.before change.after := by
    obtain rfl : change = sampleChange := by simpa using hmem
    exact sampleLibrary_sound
  obtain ⟨response, hresponse, hbytes, -⟩ := tier2PreviewResponse_shown
    ⟨⟨⟨7⟩⟩, "", ["notes.txt"], [sampleChange, sampleChange]⟩ hsound
  exact ⟨response, hresponse, hbytes⟩

end HyperTerm.Daemon.Tier2Preview
