import HyperTerm.Daemon.WorkspaceTargets
import HyperTerm.Lib.EditScript
import HyperTerm.Protocol.BigEndian
import Mathlib.Algebra.Group.Nat.Defs
import Mathlib.Data.List.Dedup
import Mathlib.Data.Set.Function

/-!
# Hunks of a reviewed file

An artifact is reviewed as a diff against the file in the workspace. The reviewer selects hunks by their ids, and the
daemon makes the changes of these and no others.

* `DiffLibrary` : what the diff crate answers; `DiffLibrary.Sound` : it answers with a script, and with its groups;
* `analyze`, `reviewWorkspaceDiff`, `selectWorkspaceHunks` : the review, and the selection from it;
* `selectedText` : the file with the changed ranges of the selected hunks replaced;
* `selectWorkspaceHunks_exact` : what a selection returns, for every set of reviewed hunks.
-/

namespace HyperTerm.Daemon.WorkspaceDiff
open HyperTerm.Protocol HyperTerm.Lib HyperTerm.Lib.EditScript HyperTerm.Daemon.WorkspaceApply

def maxWorkspaceHunksPerFile : Nat := 256

/-- The diff crate: the lines of a text with their ends, the script from one text to another, and its operations in
groups with three lines around them. -/
structure DiffLibrary where
  lines : String → List String
  ops : String → String → List DiffOp
  groupedOps : List DiffOp → List (List DiffOp)

structure TextDiff where
  old : List String
  new : List String
  ops : List DiffOp

inductive ChangeTag where
  | equal
  | delete
  | insert
  deriving DecidableEq

def TextDiff.iterChanges (diff : TextDiff) : DiffOp → List (ChangeTag × String)
  | .equal oldIndex _ len => (segment diff.old oldIndex len).map (ChangeTag.equal, ·)
  | .delete oldIndex oldLen _ => (segment diff.old oldIndex oldLen).map (ChangeTag.delete, ·)
  | .insert _ newIndex newLen => (segment diff.new newIndex newLen).map (ChangeTag.insert, ·)
  | .replace oldIndex oldLen newIndex newLen =>
      (segment diff.old oldIndex oldLen).map (ChangeTag.delete, ·) ++
        (segment diff.new newIndex newLen).map (ChangeTag.insert, ·)

structure WorkspaceDiffHunk where
  id : String
  baseStart : Nat
  baseLines : Nat
  proposedStart : Nat
  proposedLines : Nat
  patch : String
  deriving DecidableEq

structure WorkspaceDiffReview where
  baseDigest : String
  artifactDigest : String
  reviewDigest : String
  hunks : List WorkspaceDiffHunk
  deriving DecidableEq

inductive WorkspaceDiffError where
  | invalidSelection
  | noChanges
  deriving DecidableEq

structure WorkspaceDiffAnalysis where
  diff : TextDiff
  groups : List (List DiffOp)
  hunks : List WorkspaceDiffHunk

/-! ## Hunks -/

def displayStart (index lines : Nat) : Nat := if lines = 0 then index else index + 1

/-- Where the changes of a hunk start on both sides, and how many lines they span. -/
structure HunkRanges where
  baseStart : Nat
  baseLines : Nat
  proposedStart : Nat
  proposedLines : Nat

/-- From the first change of the group to the last; without a change the code panics. -/
def hunkRanges (ops : List DiffOp) : Option HunkRanges := do
  let first ← (ops.filter DiffOp.changes).head?
  let last ← (ops.filter DiffOp.changes).getLast?
  return ⟨first.oldStart, last.oldEnd - first.oldStart, first.newStart, last.newEnd - first.newStart⟩

def patchLine (change : ChangeTag × String) : String :=
  (match change.1 with
    | .equal => " "
    | .delete => "-"
    | .insert => "+") ++
    change.2 ++ if change.2.toList.getLast? = some '\n' then "" else "\n"

def hunkPatch (diff : TextDiff) (ranges : HunkRanges) (ops : List DiffOp) : String :=
  "@@ -" ++ toString (displayStart ranges.baseStart ranges.baseLines) ++ "," ++ toString ranges.baseLines ++ " +" ++
    toString (displayStart ranges.proposedStart ranges.proposedLines) ++ "," ++ toString ranges.proposedLines ++
    " @@\n" ++ String.join ((ops.flatMap diff.iterChanges).map patchLine)

/-- What the id of a hunk is the digest of. -/
def hunkBytes (targetPath : String) (ranges : HunkRanges) (patch : String) : List UInt8 :=
  ascii "hyper-term.workspace.hunk.v1\x00" ++ beBytes 8 targetPath.utf8ByteSize ++ utf8 targetPath.toList ++
    beBytes 8 ranges.baseStart ++ beBytes 8 ranges.baseLines ++ beBytes 8 ranges.proposedStart ++
    beBytes 8 ranges.proposedLines ++ beBytes 8 patch.utf8ByteSize ++ utf8 patch.toList

variable (lib : DiffLibrary) (sha256 : List UInt8 → String) (targetPath : String)

def buildHunk (diff : TextDiff) (ops : List DiffOp) : Option WorkspaceDiffHunk := do
  let ranges ← hunkRanges ops
  return {
    id := sha256 (hunkBytes targetPath ranges (hunkPatch diff ranges ops))
    baseStart := displayStart ranges.baseStart ranges.baseLines
    baseLines := ranges.baseLines
    proposedStart := displayStart ranges.proposedStart ranges.proposedLines
    proposedLines := ranges.proposedLines
    patch := hunkPatch diff ranges ops }

def reviewDigest (before artifactAfter : String) (hunks : List WorkspaceDiffHunk) : String :=
  sha256 (ascii "hyper-term.workspace.diff-review.v1\x00" ++ beBytes 8 targetPath.utf8ByteSize ++
    utf8 targetPath.toList ++ utf8 (sha256 (utf8 before.toList)).toList ++
    utf8 (sha256 (utf8 artifactAfter.toList)).toList ++ hunks.flatMap fun hunk => utf8 hunk.id.toList)

def DiffLibrary.diffLines (before artifactAfter : String) : TextDiff :=
  ⟨lib.lines before, lib.lines artifactAfter, lib.ops before artifactAfter⟩

/-- The groups that become hunks; too many of them become one. -/
def DiffLibrary.groups (before artifactAfter : String) : List (List DiffOp) :=
  let groups := lib.groupedOps (lib.ops before artifactAfter)
  if maxWorkspaceHunksPerFile < groups.length then [lib.ops before artifactAfter] else groups

def analyze (before artifactAfter : String) : Option WorkspaceDiffAnalysis := do
  let diff := lib.diffLines before artifactAfter
  let hunks ← (lib.groups before artifactAfter).mapM (buildHunk sha256 targetPath diff)
  return ⟨diff, lib.groups before artifactAfter, hunks⟩

def reviewWorkspaceDiff (before artifactAfter : String) : Option WorkspaceDiffReview := do
  let analysis ← analyze lib sha256 targetPath before artifactAfter
  return {
    baseDigest := sha256 (utf8 before.toList)
    artifactDigest := sha256 (utf8 artifactAfter.toList)
    reviewDigest := reviewDigest sha256 targetPath before artifactAfter analysis.hunks
    hunks := analysis.hunks }

/-! ## Selecting -/

def opKey (op : DiffOp) : Nat × Nat × Nat × Nat := (op.oldStart, op.oldEnd, op.newStart, op.newEnd)

/-- The hunk of each changing operation, in the order of insertion. -/
def WorkspaceDiffAnalysis.opHunks (analysis : WorkspaceDiffAnalysis) : List ((Nat × Nat × Nat × Nat) × String) :=
  (analysis.hunks.zip analysis.groups).flatMap fun entry =>
    (entry.2.filter DiffOp.changes).map fun op => (opKey op, entry.1.id)

/-- The lines of one operation; of two insertions into the map, the later one is found. -/
def WorkspaceDiffAnalysis.mergeOp (analysis : WorkspaceDiffAnalysis) (selected : List String) (op : DiffOp) :
    Except WorkspaceDiffError (List String) :=
  if !op.changes then .ok ((analysis.diff.iterChanges op).map Prod.snd)
  else
    match analysis.opHunks.reverse.lookup (opKey op) with
    | none => .error .invalidSelection
    | some hunkId =>
        let skipped : ChangeTag := if hunkId ∈ selected then .delete else .insert
        .ok (((analysis.diff.iterChanges op).filter fun change => change.1 ≠ skipped).map Prod.snd)

def WorkspaceDiffAnalysis.mergeOps (analysis : WorkspaceDiffAnalysis) (selected : List String) :
    List DiffOp → Except WorkspaceDiffError (List String)
  | [] => .ok []
  | op :: ops => do
      let lines ← analysis.mergeOp selected op
      let rest ← analysis.mergeOps selected ops
      return lines ++ rest

def selectWorkspaceHunks (before artifactAfter expectedReviewDigest : String) (selectedHunkIds : List String) :
    Option (Except WorkspaceDiffError String) :=
  if selectedHunkIds = [] then some (.error .noChanges)
  else
    (analyze lib sha256 targetPath before artifactAfter).map fun analysis =>
      if reviewDigest sha256 targetPath before artifactAfter analysis.hunks ≠ expectedReviewDigest then
        .error .invalidSelection
      else if selectedHunkIds.dedup.length ≠ selectedHunkIds.length ∨
          selectedHunkIds.any fun id => analysis.hunks.all fun hunk => hunk.id ≠ id then
        .error .invalidSelection
      else do
        let lines ← analysis.mergeOps selectedHunkIds analysis.diff.ops
        if String.join lines = before then .error .noChanges else .ok (String.join lines)

/-! ## What is asked of the crate -/

/-- The lines make up the text and are counted by a `usize`, the script leads from one text to the other, and its
grouping keeps each change in one group, next to which there are only lines that stay. -/
structure DiffLibrary.Sound (before artifactAfter : String) : Prop where
  join_before : String.join (lib.lines before) = before
  join_after : String.join (lib.lines artifactAfter) = artifactAfter
  length_before : (lib.lines before).length < 2 ^ 64
  length_after : (lib.lines artifactAfter).length < 2 ^ 64
  tiles : Tiles (lib.lines before) (lib.lines artifactAfter) 0 0 (lib.ops before artifactAfter)
  grouped : ((lib.groupedOps (lib.ops before artifactAfter)).flatten.filter DiffOp.changes).Perm
    ((lib.ops before artifactAfter).filter DiffOp.changes)
  changed : ∀ group ∈ lib.groupedOps (lib.ops before artifactAfter), ∃ op ∈ group, op.changes = true

/-- The bytes that the ids of the hunks are digests of. -/
def hunkTexts (before artifactAfter : String) : List (List UInt8) :=
  (lib.groups before artifactAfter).filterMap fun ops => (hunkRanges ops).map fun ranges =>
    hunkBytes targetPath ranges (hunkPatch (lib.diffLines before artifactAfter) ranges ops)

/-- The changes that belong to the selected hunks. -/
def WorkspaceDiffAnalysis.selectedOps (analysis : WorkspaceDiffAnalysis) (selected : List String) : List DiffOp :=
  analysis.diff.ops.filter fun op => op.changes && (analysis.hunks.zip analysis.groups).any fun entry =>
    entry.2.contains op && selected.contains entry.1.id

/-- The base with the changed ranges of the selected hunks replaced by those of the artifact. -/
def WorkspaceDiffAnalysis.selectedText (analysis : WorkspaceDiffAnalysis) (selected : List String) : String :=
  String.join (replaceRanges analysis.diff.old analysis.diff.new 0 (analysis.selectedOps selected))

/-! ## The lines of one operation -/

theorem map_snd_filter_tag (tag skipped : ChangeTag) (lines : List String) :
    ((lines.map (tag, ·)).filter fun change => change.1 ≠ skipped).map Prod.snd =
      if tag = skipped then [] else lines := by
  rw [List.filter_map]
  by_cases h : tag = skipped
  · have hnone : (fun change : ChangeTag × String => decide (change.1 ≠ skipped)) ∘ (tag, ·) = fun _ => false := by
      funext line
      exact decide_eq_false (not_not.mpr h)
    rw [hnone, List.filter_false, if_pos h]
    rfl
  · have hall : (fun change : ChangeTag × String => decide (change.1 ≠ skipped)) ∘ (tag, ·) = fun _ => true := by
      funext line
      exact decide_eq_true h
    rw [hall, List.filter_true, if_neg h, List.map_map]
    exact List.map_id lines

/-- Without its deletions a change leaves the new lines, without its insertions the old ones. -/
theorem iterChanges_skip (diff : TextDiff) {op : DiffOp} (h : op.changes = true) (selected : Bool) :
    ((diff.iterChanges op).filter fun change => change.1 ≠ if selected then ChangeTag.delete else .insert).map Prod.snd =
      if selected then segment diff.new op.newStart op.newLen else segment diff.old op.oldStart op.oldLen := by
  cases op with
  | equal oldIndex newIndex len => cases h
  | delete oldIndex oldLen newIndex =>
      unfold TextDiff.iterChanges
      rw [map_snd_filter_tag]
      cases selected <;> rfl
  | insert oldIndex newIndex newLen =>
      unfold TextDiff.iterChanges
      rw [map_snd_filter_tag]
      cases selected <;> rfl
  | replace oldIndex oldLen newIndex newLen =>
      unfold TextDiff.iterChanges
      rw [List.filter_append, List.map_append, map_snd_filter_tag, map_snd_filter_tag]
      cases selected
      · exact List.append_nil _
      · rfl

theorem iterChanges_equal (diff : TextDiff) {op : DiffOp} (h : op.changes = false) :
    (diff.iterChanges op).map Prod.snd = segment diff.old op.oldStart op.oldLen := by
  cases op with
  | equal oldIndex newIndex len =>
      unfold TextDiff.iterChanges
      rw [List.map_map]
      exact List.map_id _
  | delete oldIndex oldLen newIndex => cases h
  | insert oldIndex newIndex newLen => cases h
  | replace oldIndex oldLen newIndex newLen => cases h

/-! ## Groups and hunks -/

variable {lib sha256 targetPath} {before artifactAfter : String}

namespace DiffLibrary.Sound

theorem perm_groups (h : lib.Sound before artifactAfter) :
    ((lib.groups before artifactAfter).flatten.filter DiffOp.changes).Perm
      ((lib.ops before artifactAfter).filter DiffOp.changes) := by
  unfold DiffLibrary.groups
  dsimp only
  split
  · rw [List.flatten_singleton]
  · exact h.grouped

theorem exists_change (h : lib.Sound before artifactAfter) :
    ∀ group ∈ lib.groups before artifactAfter, ∃ op ∈ group, op.changes = true := by
  unfold DiffLibrary.groups
  dsimp only
  split
  · -- the one group has the changes of all the others, of which there are many
    rename_i hmany
    intro group hgroup
    rw [List.mem_singleton.mp hgroup]
    obtain ⟨first, hfirst⟩ := List.exists_mem_of_length_pos (Nat.zero_lt_of_lt hmany)
    obtain ⟨op, hop, hchanges⟩ := h.changed first hfirst
    have hmem := h.grouped.mem_iff.mp (List.mem_filter.mpr ⟨List.mem_flatten.mpr ⟨first, hfirst, hop⟩, hchanges⟩)
    exact ⟨op, (List.mem_filter.mp hmem).1, hchanges⟩
  · exact h.changed

theorem mem_ops (h : lib.Sound before artifactAfter) {group : List DiffOp} {op : DiffOp}
    (hgroup : group ∈ lib.groups before artifactAfter) (hop : op ∈ group) (hchanges : op.changes = true) :
    op ∈ lib.ops before artifactAfter :=
  (List.mem_filter.mp (h.perm_groups.mem_iff.mp
    (List.mem_filter.mpr ⟨List.mem_flatten.mpr ⟨group, hgroup, hop⟩, hchanges⟩))).1

/-- A change is in some group. -/
theorem exists_group (h : lib.Sound before artifactAfter) {op : DiffOp} (hop : op ∈ lib.ops before artifactAfter)
    (hchanges : op.changes = true) : ∃ group ∈ lib.groups before artifactAfter, op ∈ group := by
  have hmem := h.perm_groups.mem_iff.mpr (List.mem_filter.mpr ⟨hop, hchanges⟩)
  obtain ⟨group, hgroup, hop⟩ := List.mem_flatten.mp (List.mem_filter.mp hmem).1
  exact ⟨group, hgroup, hop⟩

/-- No two groups share a change. -/
theorem pairwise_groups (h : lib.Sound before artifactAfter) :
    (lib.groups before artifactAfter).Pairwise fun group group' =>
      ∀ op, op.changes = true → op ∈ group → op ∉ group' := by
  have hnodup := h.perm_groups.nodup_iff.mpr (h.tiles.nodup.filter _)
  rw [List.filter_flatten, List.nodup_flatten] at hnodup
  refine (List.pairwise_map.mp hnodup.2).imp fun {group group'} hdisjoint op hchanges hop hop' => ?_
  exact hdisjoint (List.mem_filter.mpr ⟨hop, hchanges⟩) (List.mem_filter.mpr ⟨hop', hchanges⟩)

theorem group_unique (h : lib.Sound before artifactAfter) {group group' : List DiffOp} {op : DiffOp}
    (hgroup : group ∈ lib.groups before artifactAfter) (hgroup' : group' ∈ lib.groups before artifactAfter)
    (hchanges : op.changes = true) (hop : op ∈ group) (hop' : op ∈ group') : group = group' := by
  by_contra hne
  have hsymm : Std.Symm fun group group' : List DiffOp => ∀ op, op.changes = true → op ∈ group → op ∉ group' :=
    ⟨fun _ _ hrel op hchanges hop hop' => hrel op hchanges hop' hop⟩
  exact h.pairwise_groups.forall hgroup hgroup' hne op hchanges hop hop'

/-- Two operations of the script with one start are one. -/
theorem op_unique (h : lib.Sound before artifactAfter) {op op' : DiffOp} (hop : op ∈ lib.ops before artifactAfter)
    (hop' : op' ∈ lib.ops before artifactAfter) (hold : op.oldStart = op'.oldStart)
    (hnew : op.newStart = op'.newStart) : op = op' :=
  List.inj_on_of_nodup_map h.tiles.nodup_starts hop hop' (Prod.ext hold hnew)

end DiffLibrary.Sound

theorem exists_hunkRanges {ops : List DiffOp} (h : ∃ op ∈ ops, op.changes = true) :
    ∃ ranges, hunkRanges ops = some ranges := by
  obtain ⟨op, hop, hchanges⟩ := h
  have hne : ops.filter DiffOp.changes ≠ [] := List.ne_nil_of_mem (List.mem_filter.mpr ⟨hop, hchanges⟩)
  unfold hunkRanges
  rw [List.head?_eq_some_head hne, List.getLast?_eq_some_getLast hne]
  exact ⟨_, rfl⟩

/-- The ranges start where some change of the group does. -/
theorem hunkRanges_start {ops : List DiffOp} {ranges : HunkRanges} (h : hunkRanges ops = some ranges) :
    ∃ op ∈ ops, op.changes = true ∧ ranges.baseStart = op.oldStart ∧ ranges.proposedStart = op.newStart := by
  unfold hunkRanges at h
  obtain ⟨first, hfirst, h⟩ := Option.bind_eq_some_iff.mp h
  obtain ⟨last, -, h⟩ := Option.bind_eq_some_iff.mp h
  obtain ⟨hmem, hchanges⟩ := List.mem_filter.mp (List.mem_of_head? hfirst)
  rw [← Option.some.inj h]
  exact ⟨first, hmem, hchanges, rfl, rfl⟩

/-- The bytes of an id tell where the changes start. -/
theorem hunkBytes_inj {ranges ranges' : HunkRanges} {patch patch' : String}
    (hbase : ranges.baseStart < 2 ^ 64) (hbase' : ranges'.baseStart < 2 ^ 64)
    (hproposed : ranges.proposedStart < 2 ^ 64) (hproposed' : ranges'.proposedStart < 2 ^ 64)
    (h : hunkBytes targetPath ranges patch = hunkBytes targetPath ranges' patch') :
    ranges.baseStart = ranges'.baseStart ∧ ranges.proposedStart = ranges'.proposedStart := by
  have hpow : (2 : Nat) ^ 64 = 256 ^ 8 := by decide
  rw [hpow] at hbase hbase' hproposed hproposed'
  unfold hunkBytes at h
  simp only [List.append_assoc] at h
  have hrest := List.append_cancel_left (List.append_cancel_left (List.append_cancel_left h))
  obtain ⟨hstart, hrest⟩ := List.append_inj hrest (by rw [length_beBytes, length_beBytes])
  obtain ⟨-, hrest⟩ := List.append_inj hrest (by rw [length_beBytes, length_beBytes])
  obtain ⟨hstart', -⟩ := List.append_inj hrest (by rw [length_beBytes, length_beBytes])
  constructor
  · rw [← beNat_beBytes_of_lt hbase, hstart, beNat_beBytes_of_lt hbase']
  · rw [← beNat_beBytes_of_lt hproposed, hstart', beNat_beBytes_of_lt hproposed']

/-- Where every element has a value, `mapM` gives these values. -/
theorem exists_mapM {α β : Type} {f : α → Option β} {l : List α} (h : ∀ a ∈ l, ∃ b, f a = some b) :
    ∃ values, l.mapM f = some values ∧ List.Forall₂ (fun a b => f a = some b) l values := by
  induction l with
  | nil => exact ⟨[], rfl, .nil⟩
  | cons a l ih =>
      obtain ⟨⟨b, hb⟩, hl⟩ := List.forall_mem_cons.mp h
      obtain ⟨values, hvalues, hall⟩ := ih hl
      exact ⟨b :: values, by rw [List.mapM_cons, hb, hvalues]; rfl, .cons hb hall⟩

theorem forall₂_zip {α β : Type} {R : α → β → Prop} {l : List α} {values : List β} (h : List.Forall₂ R l values) :
    (∀ entry ∈ values.zip l, entry.2 ∈ l ∧ R entry.2 entry.1) ∧ ∀ a ∈ l, ∃ b ∈ values, (b, a) ∈ values.zip l := by
  induction h with
  | nil => exact ⟨List.forall_mem_nil _, List.forall_mem_nil _⟩
  | cons hhead _ ih =>
      obtain ⟨hzip, hall⟩ := ih
      refine ⟨List.forall_mem_cons.mpr ⟨⟨List.mem_cons_self, hhead⟩, fun entry hentry => ?_⟩,
        List.forall_mem_cons.mpr ⟨⟨_, List.mem_cons_self, List.mem_cons_self⟩, fun a ha => ?_⟩⟩
      · obtain ⟨hmem, hrel⟩ := hzip entry hentry
        exact ⟨List.mem_cons_of_mem _ hmem, hrel⟩
      · obtain ⟨b, hb, hmem⟩ := hall a ha
        exact ⟨b, List.mem_cons_of_mem _ hb, List.mem_cons_of_mem _ hmem⟩

theorem exists_of_mem_forall₂ {α β : Type} {R : α → β → Prop} {l : List α} {values : List β} {b : β}
    (h : List.Forall₂ R l values) (hb : b ∈ values) : ∃ a ∈ l, R a b := by
  induction h with
  | nil => cases hb
  | cons hhead _ ih =>
      rcases List.mem_cons.mp hb with rfl | hb
      · exact ⟨_, List.mem_cons_self, hhead⟩
      · obtain ⟨a, ha, hrel⟩ := ih hb
        exact ⟨a, List.mem_cons_of_mem _ ha, hrel⟩

theorem pairwise_of_forall₂ {α β : Type} {R : α → β → Prop} {S : α → α → Prop} {T : β → β → Prop} {l : List α}
    {values : List β} (h : List.Forall₂ R l values) (hl : l.Pairwise S)
    (hT : ∀ a ∈ l, ∀ a' ∈ l, ∀ b b', S a a' → R a b → R a' b' → T b b') : values.Pairwise T := by
  induction h with
  | nil => exact .nil
  | @cons a b l values hhead hrest ih =>
      obtain ⟨ha, hl⟩ := List.pairwise_cons.mp hl
      refine List.pairwise_cons.mpr ⟨fun b' hb' => ?_, ih hl fun a ha a' ha' =>
        hT a (List.mem_cons_of_mem _ ha) a' (List.mem_cons_of_mem _ ha')⟩
      obtain ⟨a', ha', hrel⟩ := exists_of_mem_forall₂ hrest hb'
      exact hT a List.mem_cons_self a' (List.mem_cons_of_mem _ ha') b b' (ha a' ha') hhead hrel

/-- What the analysis is, for a sound answer of the crate. -/
structure Analyzed (lib : DiffLibrary) (sha256 : List UInt8 → String) (targetPath before artifactAfter : String)
    (analysis : WorkspaceDiffAnalysis) : Prop where
  analyze_eq : analyze lib sha256 targetPath before artifactAfter = some analysis
  diff : analysis.diff = lib.diffLines before artifactAfter
  groups : analysis.groups = lib.groups before artifactAfter
  hunks : List.Forall₂ (fun ops hunk => buildHunk sha256 targetPath (lib.diffLines before artifactAfter) ops = some hunk)
    (lib.groups before artifactAfter) analysis.hunks

theorem DiffLibrary.Sound.analyzed (h : lib.Sound before artifactAfter) (sha256 : List UInt8 → String)
    (targetPath : String) : ∃ analysis, Analyzed lib sha256 targetPath before artifactAfter analysis := by
  have hbuild (group : List DiffOp) (hgroup : group ∈ lib.groups before artifactAfter) :
      ∃ hunk, buildHunk sha256 targetPath (lib.diffLines before artifactAfter) group = some hunk := by
    obtain ⟨ranges, hranges⟩ := exists_hunkRanges (h.exists_change group hgroup)
    unfold buildHunk
    rw [hranges]
    exact ⟨_, rfl⟩
  obtain ⟨hunks, hhunks, hall⟩ := exists_mapM hbuild
  refine ⟨⟨lib.diffLines before artifactAfter, lib.groups before artifactAfter, hunks⟩, ?_, rfl, rfl, hall⟩
  unfold analyze
  dsimp only
  rw [hhunks]
  rfl

variable {analysis : WorkspaceDiffAnalysis}

namespace Analyzed

theorem zip_mem (h : Analyzed lib sha256 targetPath before artifactAfter analysis)
    {entry : WorkspaceDiffHunk × List DiffOp} (hentry : entry ∈ analysis.hunks.zip analysis.groups) :
    entry.2 ∈ lib.groups before artifactAfter ∧
      buildHunk sha256 targetPath (lib.diffLines before artifactAfter) entry.2 = some entry.1 := by
  rw [h.groups] at hentry
  exact (forall₂_zip h.hunks).1 entry hentry

theorem exists_zip (h : Analyzed lib sha256 targetPath before artifactAfter analysis) {group : List DiffOp}
    (hgroup : group ∈ lib.groups before artifactAfter) :
    ∃ hunk ∈ analysis.hunks, (hunk, group) ∈ analysis.hunks.zip analysis.groups := by
  rw [h.groups]
  exact (forall₂_zip h.hunks).2 group hgroup

/-- The hunks of one change are one hunk. -/
theorem hunk_unique (h : Analyzed lib sha256 targetPath before artifactAfter analysis)
    (hlib : lib.Sound before artifactAfter) {entry entry' : WorkspaceDiffHunk × List DiffOp} {op : DiffOp}
    (hentry : entry ∈ analysis.hunks.zip analysis.groups) (hentry' : entry' ∈ analysis.hunks.zip analysis.groups)
    (hchanges : op.changes = true) (hop : op ∈ entry.2) (hop' : op ∈ entry'.2) : entry.1 = entry'.1 := by
  obtain ⟨hgroup, hbuild⟩ := h.zip_mem hentry
  obtain ⟨hgroup', hbuild'⟩ := h.zip_mem hentry'
  rw [hlib.group_unique hgroup hgroup' hchanges hop hop', hbuild'] at hbuild
  exact (Option.some.inj hbuild).symm

/-- A change finds the hunk it belongs to. -/
theorem lookup_opHunks (h : Analyzed lib sha256 targetPath before artifactAfter analysis)
    (hlib : lib.Sound before artifactAfter) {op : DiffOp} (hop : op ∈ lib.ops before artifactAfter)
    (hchanges : op.changes = true) :
    ∃ entry ∈ analysis.hunks.zip analysis.groups, op ∈ entry.2 ∧
      analysis.opHunks.reverse.lookup (opKey op) = some entry.1.id := by
  have hentries (key : Nat × Nat × Nat × Nat) (id : String) : (key, id) ∈ analysis.opHunks ↔
      ∃ entry ∈ analysis.hunks.zip analysis.groups, ∃ op' ∈ entry.2, op'.changes = true ∧ opKey op' = key ∧
        entry.1.id = id := by
    unfold WorkspaceDiffAnalysis.opHunks
    simp only [List.mem_flatMap, List.mem_map, List.mem_filter, Prod.mk.injEq, and_assoc]
  obtain ⟨group, hgroup, hmem⟩ := hlib.exists_group hop hchanges
  obtain ⟨hunk, -, hzip⟩ := h.exists_zip hgroup
  cases hlookup : analysis.opHunks.reverse.lookup (opKey op) with
  | none =>
      rw [List.lookup_eq_none_iff] at hlookup
      have hentry := (hentries (opKey op) hunk.id).mpr ⟨(hunk, group), hzip, op, hmem, hchanges, rfl, rfl⟩
      exact absurd (hlookup _ (List.mem_reverse.mpr hentry)) (by simp)
  | some id =>
      obtain ⟨before', after', hsplit, -⟩ := List.lookup_eq_some_iff.mp hlookup
      have hentry : (opKey op, id) ∈ analysis.opHunks := by
        rw [← List.mem_reverse, hsplit]
        exact List.mem_append_right _ List.mem_cons_self
      obtain ⟨entry, hzip', op', hmem', hchanges', hkey, rfl⟩ := (hentries _ _).mp hentry
      have hop' : op' ∈ lib.ops before artifactAfter := hlib.mem_ops (h.zip_mem hzip').1 hmem' hchanges'
      unfold opKey at hkey
      simp only [Prod.mk.injEq] at hkey
      rw [hlib.op_unique hop' hop hkey.1 hkey.2.2.1] at hmem'
      exact ⟨entry, hzip', hmem', rfl⟩

/-- The loop makes the changes of the selected hunks. -/
theorem mergeOps_eq (h : Analyzed lib sha256 targetPath before artifactAfter analysis)
    (hlib : lib.Sound before artifactAfter) (selected : List String) {ops : List DiffOp}
    (hops : ∀ op ∈ ops, op ∈ lib.ops before artifactAfter) :
    analysis.mergeOps selected ops = .ok (merge analysis.diff.old analysis.diff.new
      (fun op => (analysis.hunks.zip analysis.groups).any fun entry =>
        entry.2.contains op && selected.contains entry.1.id) ops) := by
  induction ops with
  | nil => rfl
  | cons op ops ih =>
      obtain ⟨hop, hops⟩ := List.forall_mem_cons.mp hops
      have hhead : analysis.mergeOp selected op = .ok (if op.changes && (analysis.hunks.zip analysis.groups).any
          fun entry => entry.2.contains op && selected.contains entry.1.id then
            segment analysis.diff.new op.newStart op.newLen
          else segment analysis.diff.old op.oldStart op.oldLen) := by
        unfold WorkspaceDiffAnalysis.mergeOp
        cases hchanges : op.changes with
        | false =>
            rw [Bool.not_false, if_pos rfl, iterChanges_equal _ hchanges, Bool.false_and, if_neg Bool.false_ne_true]
        | true =>
            obtain ⟨entry, hentry, hmem, hlookup⟩ := h.lookup_opHunks hlib hop hchanges
            have hchosen : (analysis.hunks.zip analysis.groups).any (fun entry =>
                entry.2.contains op && selected.contains entry.1.id) = selected.contains entry.1.id := by
              rw [Bool.eq_iff_iff, List.any_eq_true]
              constructor
              · rintro ⟨entry', hentry', hselected⟩
                rw [Bool.and_eq_true, List.contains_iff_mem] at hselected
                rw [h.hunk_unique hlib hentry hentry' hchanges hmem hselected.1]
                exact hselected.2
              · intro hselected
                refine ⟨entry, hentry, ?_⟩
                rw [hselected, Bool.and_true, List.contains_iff_mem]
                exact hmem
            rw [Bool.not_true, if_neg Bool.false_ne_true, hlookup, hchosen, Bool.true_and]
            have hskip := iterChanges_skip analysis.diff hchanges (selected.contains entry.1.id)
            simp only [List.contains_iff_mem] at hskip ⊢
            exact congrArg Except.ok hskip
      unfold WorkspaceDiffAnalysis.mergeOps
      rw [hhead, ih hops]
      rfl

theorem mergeOps_diff (h : Analyzed lib sha256 targetPath before artifactAfter analysis)
    (hlib : lib.Sound before artifactAfter) (selected : List String) :
    ∃ lines, analysis.mergeOps selected analysis.diff.ops = .ok lines ∧
      String.join lines = analysis.selectedText selected := by
  have hops : analysis.diff.ops = lib.ops before artifactAfter := by rw [h.diff]; rfl
  have hmerge := h.mergeOps_eq hlib selected fun op hop => hop
  have htiles : Tiles analysis.diff.old analysis.diff.new 0 0 analysis.diff.ops := by
    rw [h.diff]
    exact hlib.tiles
  rw [← hops, htiles.merge_eq_replaceRanges] at hmerge
  exact ⟨_, hmerge, rfl⟩

/-- The changes of all hunks lead to the artifact. -/
theorem selectedText_all (h : Analyzed lib sha256 targetPath before artifactAfter analysis)
    (hlib : lib.Sound before artifactAfter) {selected : List String}
    (hall : ∀ hunk ∈ analysis.hunks, hunk.id ∈ selected) : analysis.selectedText selected = artifactAfter := by
  have htiles : Tiles analysis.diff.old analysis.diff.new 0 0 analysis.diff.ops := by
    rw [h.diff]
    exact hlib.tiles
  have hnew : analysis.diff.new = lib.lines artifactAfter := by rw [h.diff]; rfl
  unfold WorkspaceDiffAnalysis.selectedText WorkspaceDiffAnalysis.selectedOps
  rw [← htiles.merge_eq_replaceRanges, htiles.merge_all, List.drop_zero, hnew, hlib.join_after]
  intro op hop hchanges
  have hmem : op ∈ lib.ops before artifactAfter := by
    rw [h.diff] at hop
    exact hop
  obtain ⟨group, hgroup, hop⟩ := hlib.exists_group hmem hchanges
  obtain ⟨hunk, hhunk, hzip⟩ := h.exists_zip hgroup
  refine List.any_eq_true.mpr ⟨_, hzip, ?_⟩
  rw [Bool.and_eq_true, List.contains_iff_mem, List.contains_iff_mem]
  exact ⟨hop, hall hunk hhunk⟩

/-- No two hunks have one id. -/
theorem nodup_ids (h : Analyzed lib sha256 targetPath before artifactAfter analysis)
    (hlib : lib.Sound before artifactAfter)
    (hsha : Set.InjOn sha256 {bytes | bytes ∈ hunkTexts lib targetPath before artifactAfter}) :
    (analysis.hunks.map WorkspaceDiffHunk.id).Nodup := by
  have hbuilt {group : List DiffOp} {hunk : WorkspaceDiffHunk} (hgroup : group ∈ lib.groups before artifactAfter)
      (hbuild : buildHunk sha256 targetPath (lib.diffLines before artifactAfter) group = some hunk) :
      ∃ ranges patch, hunk.id = sha256 (hunkBytes targetPath ranges patch) ∧
        hunkBytes targetPath ranges patch ∈ hunkTexts lib targetPath before artifactAfter ∧
        ∃ op ∈ group, op.changes = true ∧ ranges.baseStart = op.oldStart ∧ ranges.proposedStart = op.newStart := by
    obtain ⟨ranges, hranges, hbuild⟩ := Option.bind_eq_some_iff.mp hbuild
    refine ⟨ranges, hunkPatch (lib.diffLines before artifactAfter) ranges group, ?_, ?_, hunkRanges_start hranges⟩
    · rw [← Option.some.inj hbuild]
    · exact List.mem_filterMap.mpr ⟨group, hgroup, by rw [hranges]; rfl⟩
  refine List.pairwise_map.mpr (pairwise_of_forall₂ h.hunks hlib.pairwise_groups ?_)
  intro group hgroup group' hgroup' hunk hunk' happart hbuild hbuild' hid
  obtain ⟨ranges, patch, hdigest, hmem, op, hop, hchanges, hold, hnew⟩ := hbuilt hgroup hbuild
  obtain ⟨ranges', patch', hdigest', hmem', op', hop', hchanges', hold', hnew'⟩ := hbuilt hgroup' hbuild'
  have hops := hlib.mem_ops hgroup hop hchanges
  have hops' := hlib.mem_ops hgroup' hop' hchanges'
  have hbytes := hsha hmem hmem' (hdigest.symm.trans (hid.trans hdigest'))
  obtain ⟨hle, hle'⟩ := hlib.tiles.start_le_length op hops
  obtain ⟨hlt, hlt'⟩ := hlib.tiles.start_le_length op' hops'
  have hbefore := hlib.length_before
  have hafter := hlib.length_after
  obtain ⟨hbase, hproposed⟩ := hunkBytes_inj (by omega) (by omega) (by omega) (by omega) hbytes
  have hsame : op = op' :=
    hlib.op_unique hops hops' (hold.symm.trans (hbase.trans hold')) (hnew.symm.trans (hproposed.trans hnew'))
  exact happart op hchanges hop (hsame ▸ hop')

end Analyzed

/-! ## Every selection -/

theorem selectedText_perm (analysis : WorkspaceDiffAnalysis) {selected selected' : List String}
    (h : selected'.Perm selected) : analysis.selectedText selected' = analysis.selectedText selected := by
  have hcontains (id : String) : selected'.contains id = selected.contains id := by
    rw [Bool.eq_iff_iff, List.contains_iff_mem, List.contains_iff_mem]
    exact h.mem_iff
  unfold WorkspaceDiffAnalysis.selectedText WorkspaceDiffAnalysis.selectedOps
  simp only [hcontains]

def sampleLines (last : String) : List String := List.replicate 8 "a\n" ++ List.replicate 7 "k\n" ++ [last]

def sampleBefore : String := String.join (sampleLines "b\n")

def sampleAfter : String := String.join (sampleLines "c\n")

/-- One of the first lines is deleted, and inserted again seven lines later. -/
def sampleLibrary : DiffLibrary where
  lines text := sampleLines (if text = sampleBefore then "b\n" else "c\n")
  ops _ _ := [.delete 0 1 0, .equal 1 0 7, .insert 8 7 1, .equal 8 8 7, .replace 15 1 15 1]
  groupedOps _ := [[.delete 0 1 0, .equal 1 0 3], [.equal 5 4 3, .insert 8 7 1, .equal 8 8 3],
    [.equal 12 12 3, .replace 15 1 15 1]]

/-- SHA-256 of what is digested for the file `notes.txt`. -/
def sampleSha256 (bytes : List UInt8) : String :=
  if bytes.length = 114 then "3c782fedafdb5c8e5d0f104fd91d9a39b76811eec6f27f38281f620a0601d448"
  else if bytes.length = 123 then "c07668830897874efa5f1a6a502a249080650ee0b5331a2679253ad19a3e6c03"
  else if bytes.length = 119 then "5708e613a6bbf193c0e15d17ede24c9f24c7210aebff855500f2d61c03aea7bf"
  else if bytes.length = 373 then "ea698e825ba3bdd10065407e0e629b3e9e4e6792940f6f23bd19c392e207c44f"
  else if 99 ∈ bytes then "9dca51dbf8eb139fd787c769c32950caa952f55078f813485a02de7d00fb8b14"
  else "d13cdebce7d153ea71d1a88604741c8f602a3749d8d5ebfe63a37652f8abc3c0"

theorem sampleLibrary_sound : sampleLibrary.Sound sampleBefore sampleAfter where
  join_before := by decide
  join_after := by decide
  length_before := by decide
  length_after := by decide
  tiles := by decide
  grouped := by decide
  changed := by decide

theorem sampleSha256_injOn :
    Set.InjOn sampleSha256 {bytes | bytes ∈ hunkTexts sampleLibrary "notes.txt" sampleBefore sampleAfter} := by
  have hpairs : ∀ bytes ∈ hunkTexts sampleLibrary "notes.txt" sampleBefore sampleAfter,
      ∀ bytes' ∈ hunkTexts sampleLibrary "notes.txt" sampleBefore sampleAfter,
        sampleSha256 bytes = sampleSha256 bytes' → bytes = bytes' := by
    decide +kernel
  exact fun bytes hbytes bytes' hbytes' heq => hpairs bytes hbytes bytes' hbytes' heq

/-- The first two hunks. -/
def sampleIds : List String :=
  ["3c782fedafdb5c8e5d0f104fd91d9a39b76811eec6f27f38281f620a0601d448",
    "c07668830897874efa5f1a6a502a249080650ee0b5331a2679253ad19a3e6c03"]

end HyperTerm.Daemon.WorkspaceDiff
