import HyperTerm.Lib.Fields
import HyperTerm.Lib.Hex
import HyperTerm.Lib.Keyed
import HyperTerm.Lib.LossyText
import HyperTerm.Lib.NormalPaths
import HyperTerm.Lib.Result
import HyperTerm.Protocol.BigEndian
import Mathlib.Data.String.Basic
import Mathlib.Data.List.Lex

/-!
# The change report of an isolated worktree

When a task has ended Git lists what it changed, and each listed path is inspected without following links. The report is
what is reviewed, and what the worktree is compared with when the daemon starts again.

* `inspectChange`, `buildChangeReport` : one listed path, and the report of all of them;
* `Sha256`, `inventoryBytes` : the digest, and what the inventory of a report is the digest of;
* `listing`, `shownBytes` : the listed kinds and paths, and the bytes of a node that are shown by their digest;
* `Confused` : different nodes of which the same is shown;
* `inventory_binds` : equal inventories are inventories of the same changes;
* `report_binds_iff` : when equal reports are reports of the same nodes.
-/

namespace HyperTerm.Sandbox.Worktree
open HyperTerm.Lib HyperTerm.Lib.Paths HyperTerm.Protocol

def maxChangedFiles : Nat := 4096

def maxChangedBytes : Nat := 256 * 1024 * 1024

/-- The digest of `sha2`, of 32 bytes. -/
structure Sha256 where
  digest : List UInt8 → List UInt8
  length_digest : ∀ bytes, (digest bytes).length = 32

def Sha256.hex (sha256 : Sha256) (bytes : List UInt8) : List Char := encodeHex (sha256.digest bytes)

inductive IsolatedChangeKind where
  | added
  | deleted
  | modified
  | typeChanged
  | untracked
  deriving DecidableEq

structure IsolatedChange where
  kind : IsolatedChangeKind
  path : List Char
  bytes : Nat
  contentSha256 : Option (List Char)
  deriving DecidableEq

structure IsolatedChangeReport where
  environmentId : String
  sourceRevision : String
  changedFiles : List IsolatedChange
  changedBytes : Nat
  inventorySha256 : List Char
  deriving DecidableEq

inductive ChangeError where
  | unsupportedChange (text : List Char)
  | unsafeSourcePath (path : List Char)
  | unsafeSymlink (path : List Char)
  | changedResultTooLarge
  | tooManyChangedFiles
  | io
  deriving DecidableEq

/-- What stands at a path, as `symlink_metadata` tells: a file, a link with the bytes of its target, or anything else. -/
inductive Node where
  | file (contents : List UInt8)
  | symlink (target : List UInt8)
  | other
  deriving DecidableEq

/-- The manifest of an environment as far as it goes into a report, and the nodes below its worktree. -/
structure IsolatedWorktree where
  environmentId : String
  sourceRevision : String
  worktree : List (List Char)
  node : List Char → Option Node

/-! ## One listed path -/

/-- `validate_source_path`. -/
def validateSourcePath (path : List Char) : Except ChangeError Unit :=
  if path = [] ∨ isAbsolute path then .error (.unsafeSourcePath path)
  else if ∃ component ∈ components path, component.name? = none then .error (.unsafeSourcePath path)
  else if .normal ".git".toList ∈ components path then .error (.unsafeSourcePath path)
  else .ok ()

/-- The bytes of a path, each as one character. -/
def osChars (bytes : List UInt8) : List Char := bytes.map fun byte => Char.ofNat byte.toNat

/-- `lexical_normalize`, on the names below the root. -/
def lexicalNormalize (base : List (List Char)) (target : List Char) : Option (List (List Char)) :=
  if isAbsolute target then none
  else pushComponents (fun names => if names = [] then none else some names.dropLast) base (components target)

/-- Whether the target of a link, taken from the directory of the link, leaves the worktree. -/
def escapes (worktree : List (List Char)) (path : List Char) (link : List UInt8) : Bool :=
  let parent := worktree ++ (meaningful (osChars (utf8 path))).dropLast
  isAbsolute (osChars link) || (lexicalNormalize parent (osChars link)).all fun resolved => !worktree.isPrefixOf resolved

variable (sha256 : Sha256) (environment : IsolatedWorktree)

/-- The bytes of a node that are counted and digested: of a link, those of its target as a text. -/
def inspectNode (path : List Char) : Option Node → Except ChangeError (List UInt8)
  | none => .error .io
  | some (.file contents) => if maxChangedBytes < contents.length then .error .changedResultTooLarge else .ok contents
  | some (.symlink link) =>
      if escapes environment.worktree path link then .error (.unsafeSymlink path) else .ok (utf8 (fromUtf8Lossy link))
  | some .other => .error (.unsupportedChange path)

def inspectChange (pathBytes : List UInt8) (kind : IsolatedChangeKind) : Except ChangeError IsolatedChange := do
  let path ← okOr (fromUtf8 pathBytes) (.unsupportedChange "non-UTF-8 result path".toList)
  validateSourcePath path
  if kind = .deleted then return { kind, path, bytes := 0, contentSha256 := none }
  else
    let contents ← inspectNode environment path (environment.node path)
    if maxChangedBytes < contents.length then .error .changedResultTooLarge
    else return { kind, path, bytes := contents.length, contentSha256 := some (sha256.hex contents) }

/-! ## The report -/

def changeKind : List Char → Except ChangeError IsolatedChangeKind
  | ['A'] => .ok .added
  | ['D'] => .ok .deleted
  | ['M'] => .ok .modified
  | ['T'] => .ok .typeChanged
  | status => .error (.unsupportedChange status)

/-- The fields of an output with `-z`. -/
def nulFields (output : List UInt8) : List (List UInt8) :=
  (output.splitOnP fun byte => byte == 0).filter fun field => !field.isEmpty

/-- `chunks_exact(2)`. -/
def pairs {α : Type} : List α → List (α × α)
  | first :: second :: rest => (first, second) :: pairs rest
  | _ => []

def trackedChange (pair : List UInt8 × List UInt8) : Except ChangeError IsolatedChange := do
  let status ← okOr (fromUtf8 pair.1) (.unsupportedChange "non-UTF-8 Git status".toList)
  let kind ← changeKind status
  inspectChange sha256 environment pair.2 kind

def IsolatedChangeKind.debug : IsolatedChangeKind → String
  | .added => "Added"
  | .deleted => "Deleted"
  | .modified => "Modified"
  | .typeChanged => "TypeChanged"
  | .untracked => "Untracked"

/-- What one change adds to the inventory. -/
def changeBytes (change : IsolatedChange) : List UInt8 :=
  utf8 change.kind.debug.toList ++ 0 :: (utf8 change.path ++ 0 :: ((beBytes 8 change.bytes).reverse ++
    0 :: (utf8 (change.contentSha256.getD []) ++ [0])))

def inventoryBytes (changes : List IsolatedChange) : List UInt8 := changes.flatMap changeBytes

/-- The sum of the sizes; past the limit it does not matter how far. -/
def changedBytes (changes : List IsolatedChange) : Except ChangeError Nat :=
  let total := (changes.map IsolatedChange.bytes).sum
  if maxChangedBytes < total then .error .changedResultTooLarge else .ok total

/-- Paths are compared by their names, which are in the order of their characters. -/
def sortChanges (changes : List IsolatedChange) : List IsolatedChange :=
  sortByKey (fun change => meaningful change.path) changes

def buildChangeReport (tracked untracked : List UInt8) : Except ChangeError IsolatedChangeReport := do
  let trackedFields := nulFields tracked
  if trackedFields.length % 2 ≠ 0 then .error (.unsupportedChange "malformed Git name-status output".toList)
  else
    let trackedChanges ← (pairs trackedFields).mapM (trackedChange sha256 environment)
    let untrackedChanges ← (nulFields untracked).mapM fun path => inspectChange sha256 environment path .untracked
    let changes := trackedChanges ++ untrackedChanges
    if maxChangedFiles < changes.length then .error .tooManyChangedFiles
    else
      let total ← changedBytes (sortChanges changes)
      return {
        environmentId := environment.environmentId
        sourceRevision := environment.sourceRevision
        changedFiles := sortChanges changes
        changedBytes := total
        inventorySha256 := sha256.hex (inventoryBytes (sortChanges changes)) }

/-! ## Inventories -/

/-- A change as the report holds it: no zero byte in its path, a size of 64 bits, and a digest of 64 digits. -/
structure IsolatedChange.WellFormed (change : IsolatedChange) : Prop where
  path : 0 ∉ utf8 change.path
  bytes : change.bytes < 2 ^ 64
  digest : ∀ digest ∈ change.contentSha256, digest.length = 64 ∧ ∀ c ∈ digest, isHexLower c = true

theorem zero_notMem_utf8 {chars : List Char} (h : ∀ c ∈ chars, 0 < c.toNat ∧ c.toNat < 128) : 0 ∉ utf8 chars := by
  rw [utf8_of_ascii fun c hc => (h c hc).2]
  intro hmem
  obtain ⟨c, hc, hzero⟩ := List.mem_map.1 hmem
  have hnat : c.toNat % 256 = 0 := congrArg UInt8.toNat hzero
  have hrange := h c hc
  omega

theorem toNat_of_isHexLower {c : Char} (h : isHexLower c = true) : 0 < c.toNat ∧ c.toNat < 128 := by
  simp only [isHexLower, decide_eq_true_eq] at h
  omega

theorem zero_notMem_debug (kind : IsolatedChangeKind) : 0 ∉ utf8 kind.debug.toList := by
  cases kind <;> decide

theorem debug_injective : Function.Injective fun kind : IsolatedChangeKind => kind.debug := by
  intro kind kind' h
  cases kind <;> cases kind' <;> first | rfl | exact absurd h (by decide)

theorem zero_notMem_digest {change : IsolatedChange} (h : change.WellFormed) :
    0 ∉ utf8 (change.contentSha256.getD []) := by
  cases hdigest : change.contentSha256 with
  | none => exact List.not_mem_nil
  | some digest => exact zero_notMem_utf8 fun c hc => toNat_of_isHexLower ((h.digest digest hdigest).2 c hc)

theorem contentSha256_eq {change change' : IsolatedChange} (h : change.WellFormed) (h' : change'.WellFormed)
    (heq : change.contentSha256.getD [] = change'.contentSha256.getD []) :
    change.contentSha256 = change'.contentSha256 := by
  cases hdigest : change.contentSha256 with
  | none =>
      cases hdigest' : change'.contentSha256 with
      | none => rfl
      | some digest' =>
          rw [hdigest, hdigest'] at heq
          obtain rfl : [] = digest' := heq
          exact absurd (h'.digest [] hdigest').1 (by decide)
  | some digest =>
      cases hdigest' : change'.contentSha256 with
      | none =>
          rw [hdigest, hdigest'] at heq
          obtain rfl : digest = [] := heq
          exact absurd (h.digest [] hdigest).1 (by decide)
      | some digest' =>
          rw [hdigest, hdigest'] at heq
          exact congrArg some heq

/-- The bytes of a change end where the next one begins. -/
theorem changeBytes_append_inj {change change' : IsolatedChange} (h : change.WellFormed) (h' : change'.WellFormed)
    {rest rest' : List UInt8} (heq : changeBytes change ++ rest = changeBytes change' ++ rest') :
    change = change' ∧ rest = rest' := by
  simp only [changeBytes, List.append_assoc, List.cons_append, List.nil_append] at heq
  obtain ⟨hkind, hpath⟩ := append_cons_inj (zero_notMem_debug _) (zero_notMem_debug _) heq
  obtain ⟨hpath, hsize⟩ := append_cons_inj h.path h'.path hpath
  have hlength : (beBytes 8 change.bytes).reverse.length = (beBytes 8 change'.bytes).reverse.length := by
    rw [List.length_reverse, List.length_reverse, length_beBytes, length_beBytes]
  obtain ⟨hsize, hdigest⟩ := List.append_inj hsize hlength
  obtain ⟨hdigest, hrest⟩ := append_cons_inj (zero_notMem_digest h) (zero_notMem_digest h')
    (List.cons_eq_cons.1 hdigest).2
  refine ⟨?_, hrest⟩
  have hkinds : change.kind = change'.kind :=
    debug_injective (String.toList_inj.1 (utf8_injective hkind))
  have hbytes : change.bytes = change'.bytes := by
    have hnat := congrArg beNat (List.reverse_injective hsize)
    rwa [beNat_beBytes_of_lt h.bytes, beNat_beBytes_of_lt h'.bytes] at hnat
  have hpaths : change.path = change'.path := utf8_injective hpath
  have hdigests := contentSha256_eq h h' (utf8_injective hdigest)
  cases change
  cases change'
  rw [IsolatedChange.mk.injEq]
  exact ⟨hkinds, hpaths, hbytes, hdigests⟩

theorem inventory_binds {changes changes' : List IsolatedChange} (h : ∀ change ∈ changes, change.WellFormed)
    (h' : ∀ change ∈ changes', change.WellFormed) (heq : inventoryBytes changes = inventoryBytes changes') :
    changes = changes' := by
  induction changes generalizing changes' with
  | nil =>
      cases changes' with
      | nil => rfl
      | cons change' changes' => exact absurd heq.symm (by simp [inventoryBytes, changeBytes])
  | cons change changes ih =>
      cases changes' with
      | nil => exact absurd heq (by simp [inventoryBytes, changeBytes])
      | cons change' changes' =>
          rw [inventoryBytes, inventoryBytes, List.flatMap_cons, List.flatMap_cons] at heq
          obtain ⟨rfl, hrest⟩ := changeBytes_append_inj (h change List.mem_cons_self) (h' change' List.mem_cons_self) heq
          rw [ih (fun c hc => h c (List.mem_cons_of_mem _ hc)) (fun c hc => h' c (List.mem_cons_of_mem _ hc)) hrest]

/-! ## What a report shows -/

/-- The bytes of a node that the report shows by their digest. Of a deleted path there are none. -/
def shownBytes (kind : IsolatedChangeKind) (node : Option Node) : Option (List UInt8) :=
  if kind = .deleted then none
  else
    match node with
    | some (.file contents) => some contents
    | some (.symlink target) => some (utf8 (fromUtf8Lossy target))
    | _ => none

/-- A listed path, and the bytes that are shown of it. -/
structure ShownChange where
  kind : IsolatedChangeKind
  path : List Char
  bytes : Option (List UInt8)
  deriving DecidableEq

/-- The kinds and paths that Git lists. -/
def listing (tracked untracked : List UInt8) : List (IsolatedChangeKind × List Char) :=
  ((pairs (nulFields tracked)).map fun pair =>
    (((changeKind ((fromUtf8 pair.1).getD [])).toOption.getD .modified), (fromUtf8 pair.2).getD [])) ++
    (nulFields untracked).map fun path => (.untracked, (fromUtf8 path).getD [])

def shownAt (environment : IsolatedWorktree) (entry : IsolatedChangeKind × List Char) : ShownChange :=
  ⟨entry.1, entry.2, shownBytes entry.1 (environment.node entry.2)⟩

/-- What is shown of all listed paths, in the order of the report. -/
def shownChanges (environment : IsolatedWorktree) (tracked untracked : List UInt8) : List ShownChange :=
  sortByKey (fun shown => meaningful shown.path) ((listing tracked untracked).map (shownAt environment))

def recorded (sha256 : Sha256) (shown : ShownChange) : IsolatedChange :=
  ⟨shown.kind, shown.path, (shown.bytes.getD []).length, shown.bytes.map sha256.hex⟩

variable {sha256 : Sha256} {environment : IsolatedWorktree}

/-- A listed path as it is when its inspection succeeds. -/
structure Inspected (environment : IsolatedWorktree) (entry : IsolatedChangeKind × List Char) : Prop where
  path : 0 ∉ utf8 entry.2
  shown : entry.1 ≠ .deleted → (shownBytes entry.1 (environment.node entry.2)).isSome
  bytes : ((shownBytes entry.1 (environment.node entry.2)).getD []).length ≤ maxChangedBytes

theorem inspectNode_eq_ok {kind : IsolatedChangeKind} (hkind : kind ≠ .deleted) {path : List Char} {node : Option Node}
    {contents : List UInt8} (h : inspectNode environment path node = .ok contents) :
    shownBytes kind node = some contents := by
  unfold shownBytes
  rw [if_neg hkind]
  cases node with
  | none => cases h
  | some node =>
      cases node with
      | file bytes =>
          rw [inspectNode, ite_error_eq_ok] at h
          exact congrArg some (Except.ok.inj h.2)
      | symlink target =>
          rw [inspectNode, ite_error_eq_ok] at h
          exact congrArg some (Except.ok.inj h.2)
      | other => cases h

theorem inspectChange_eq_ok {pathBytes : List UInt8} {kind : IsolatedChangeKind} {change : IsolatedChange}
    (hzero : 0 ∉ pathBytes) (h : inspectChange sha256 environment pathBytes kind = .ok change) :
    change = recorded sha256 (shownAt environment (kind, (fromUtf8 pathBytes).getD [])) ∧
      Inspected environment (kind, (fromUtf8 pathBytes).getD []) := by
  unfold inspectChange at h
  rw [bind_eq_ok] at h
  obtain ⟨path, hpath, h⟩ := h
  rw [bind_eq_ok] at h
  obtain ⟨-, -, h⟩ := h
  have hpath := okOr_eq_ok.1 hpath
  rw [hpath, Option.getD_some]
  rw [← utf8_of_fromUtf8 hpath] at hzero
  by_cases hkind : kind = .deleted
  · rw [if_pos hkind] at h
    subst hkind
    cases h
    exact ⟨rfl, hzero, fun hne => absurd rfl hne, Nat.zero_le _⟩
  · rw [if_neg hkind, bind_eq_ok] at h
    obtain ⟨contents, hcontents, h⟩ := h
    rw [ite_error_eq_ok] at h
    have hshown := inspectNode_eq_ok hkind hcontents
    cases h.2
    refine ⟨?_, hzero, fun _ => ?_, ?_⟩
    · simp only [recorded, shownAt, hshown]
      rfl
    · show (shownBytes kind (environment.node path)).isSome = true
      rw [hshown]
      rfl
    · show ((shownBytes kind (environment.node path)).getD []).length ≤ maxChangedBytes
      rw [hshown]
      exact Nat.not_lt.1 h.1

/-! ## The report of a listing -/

theorem zero_notMem_nulFields {output field : List UInt8} (h : field ∈ nulFields output) : 0 ∉ field := fun hmem => by
  have hfalse := forall_of_mem_splitOnP (List.mem_of_mem_filter h) 0 hmem
  exact absurd hfalse (by decide)

theorem mem_of_mem_pairs {α : Type} : ∀ {l : List α} {pair : α × α}, pair ∈ pairs l → pair.1 ∈ l ∧ pair.2 ∈ l
  | first :: second :: rest, pair, h => by
      rcases List.mem_cons.1 h with rfl | h
      · exact ⟨List.mem_cons_self, List.mem_cons_of_mem _ List.mem_cons_self⟩
      · obtain ⟨h₁, h₂⟩ := mem_of_mem_pairs h
        exact ⟨List.mem_cons_of_mem _ (List.mem_cons_of_mem _ h₁), List.mem_cons_of_mem _ (List.mem_cons_of_mem _ h₂)⟩

theorem trackedChange_eq_ok {pair : List UInt8 × List UInt8} {change : IsolatedChange} (hzero : 0 ∉ pair.2)
    (h : trackedChange sha256 environment pair = .ok change) :
    change = recorded sha256 (shownAt environment
      (((changeKind ((fromUtf8 pair.1).getD [])).toOption.getD .modified), (fromUtf8 pair.2).getD [])) ∧
      Inspected environment (((changeKind ((fromUtf8 pair.1).getD [])).toOption.getD .modified), (fromUtf8 pair.2).getD []) := by
  unfold trackedChange at h
  rw [bind_eq_ok] at h
  obtain ⟨status, hstatus, h⟩ := h
  rw [bind_eq_ok] at h
  obtain ⟨kind, hkind, h⟩ := h
  rw [okOr_eq_ok.1 hstatus, Option.getD_some, hkind]
  exact inspectChange_eq_ok hzero h

/-- A list is mapped where each element is given its value. -/
theorem mapM_eq_map {ε α β : Type} {f : α → Except ε β} {g : α → β} {P : α → Prop} {l : List α} {values : List β}
    (hf : ∀ a ∈ l, ∀ b, f a = .ok b → b = g a ∧ P a) (h : l.mapM f = .ok values) : values = l.map g ∧ ∀ a ∈ l, P a := by
  rw [mapM_eq_ok] at h
  induction h with
  | nil => exact ⟨rfl, List.forall_mem_nil _⟩
  | cons hb _ ih =>
      obtain ⟨rfl, hP⟩ := hf _ List.mem_cons_self _ hb
      obtain ⟨rfl, hall⟩ := ih fun a ha => hf a (List.mem_cons_of_mem _ ha)
      exact ⟨rfl, List.forall_mem_cons.2 ⟨hP, hall⟩⟩

theorem sortChanges_recorded (shown : List ShownChange) :
    sortChanges (shown.map (recorded sha256)) =
      (sortByKey (fun shown => meaningful shown.path) shown).map (recorded sha256) :=
  (List.map_insertionSort (fun a b : ShownChange => meaningful a.path ≤ meaningful b.path)
    (fun a b : IsolatedChange => meaningful a.path ≤ meaningful b.path) (recorded sha256) shown
    fun _ _ _ _ => Iff.rfl).symm

/-- The report holds what is shown of the listed paths, and all of them were inspected. -/
theorem buildChangeReport_eq_ok {tracked untracked : List UInt8} {report : IsolatedChangeReport}
    (h : buildChangeReport sha256 environment tracked untracked = .ok report) :
    report.environmentId = environment.environmentId ∧ report.sourceRevision = environment.sourceRevision ∧
      report.changedFiles = (shownChanges environment tracked untracked).map (recorded sha256) ∧
      report.changedBytes = (report.changedFiles.map IsolatedChange.bytes).sum ∧
      report.inventorySha256 = sha256.hex (inventoryBytes report.changedFiles) ∧
      ∀ entry ∈ listing tracked untracked, Inspected environment entry := by
  unfold buildChangeReport at h
  dsimp only at h
  rw [ite_error_eq_ok, bind_eq_ok] at h
  obtain ⟨-, trackedChanges, htracked, h⟩ := h
  rw [bind_eq_ok] at h
  obtain ⟨untrackedChanges, huntracked, h⟩ := h
  rw [ite_error_eq_ok, bind_eq_ok] at h
  obtain ⟨-, total, htotal, h⟩ := h
  obtain ⟨rfl, hinspected⟩ := mapM_eq_map
    (fun pair hpair change => trackedChange_eq_ok (zero_notMem_nulFields (mem_of_mem_pairs hpair).2)) htracked
  obtain ⟨rfl, hinspected'⟩ := mapM_eq_map
    (fun path hpath change => inspectChange_eq_ok (zero_notMem_nulFields hpath)) huntracked
  obtain ⟨-, htotal⟩ := ite_error_eq_ok.1 htotal
  cases htotal
  cases h
  refine ⟨rfl, rfl, ?_, rfl, rfl, fun entry hentry => ?_⟩
  · unfold shownChanges
    rw [← sortChanges_recorded, listing, List.map_append, List.map_append, List.map_map, List.map_map, List.map_map,
      List.map_map]
    rfl
  · rcases List.mem_append.1 hentry with hentry | hentry
    · obtain ⟨pair, hpair, rfl⟩ := List.mem_map.1 hentry
      exact hinspected pair hpair
    · obtain ⟨path, hpath, rfl⟩ := List.mem_map.1 hentry
      exact hinspected' path hpath

/-! ## Nodes that a report does not tell apart -/

/-- Two different nodes of which a report shows the same: anything at a path that is listed as deleted, a file that holds the
text of a link, and links whose targets differ in bytes that are no text. -/
inductive Confused : IsolatedChangeKind → Option Node → Option Node → Prop
  | deleted {node node' : Option Node} (hne : node ≠ node') : Confused .deleted node node'
  | fileLink {kind : IsolatedChangeKind} (hkind : kind ≠ .deleted) (target : List UInt8) :
      Confused kind (some (.file (utf8 (fromUtf8Lossy target)))) (some (.symlink target))
  | linkFile {kind : IsolatedChangeKind} (hkind : kind ≠ .deleted) (target : List UInt8) :
      Confused kind (some (.symlink target)) (some (.file (utf8 (fromUtf8Lossy target))))
  | links {kind : IsolatedChangeKind} {target target' : List UInt8} (hkind : kind ≠ .deleted) (hne : target ≠ target')
      (htext : fromUtf8Lossy target = fromUtf8Lossy target') :
      Confused kind (some (.symlink target)) (some (.symlink target'))

theorem Confused.ne {kind : IsolatedChangeKind} {node node' : Option Node} (h : Confused kind node node') :
    node ≠ node' := by
  intro heq
  cases h with
  | deleted hne => exact hne heq
  | fileLink => cases heq
  | linkFile => cases heq
  | links _ hne => exact hne (Node.symlink.inj (Option.some.inj heq))

theorem confused_of_ne {kind : IsolatedChangeKind} {node node' : Option Node}
    (hshown : shownBytes kind node = shownBytes kind node') (hsome : kind ≠ .deleted → (shownBytes kind node).isSome)
    (hne : node ≠ node') : Confused kind node node' := by
  by_cases hkind : kind = .deleted
  · subst hkind
    exact Confused.deleted hne
  · have hsome' : (shownBytes kind node').isSome := hshown ▸ hsome hkind
    have hsome := hsome hkind
    unfold shownBytes at hshown hsome hsome'
    rw [if_neg hkind] at hshown hsome hsome'
    rw [if_neg hkind] at hshown
    rcases node with _ | contents | target | _
    case none => cases hsome
    case some.other => cases hsome
    case some.file =>
      rcases node' with _ | contents' | target' | _
      case none => cases hsome'
      case some.other => cases hsome'
      case some.file =>
        obtain rfl : contents = contents' := Option.some.inj hshown
        exact absurd rfl hne
      case some.symlink =>
        obtain rfl : contents = utf8 (fromUtf8Lossy target') := Option.some.inj hshown
        exact Confused.fileLink hkind target'
    case some.symlink =>
      rcases node' with _ | contents' | target' | _
      case none => cases hsome'
      case some.other => cases hsome'
      case some.file =>
        obtain rfl : utf8 (fromUtf8Lossy target) = contents' := Option.some.inj hshown
        exact Confused.linkFile hkind target
      case some.symlink =>
        refine Confused.links hkind (fun heq => hne (congrArg _ (congrArg _ heq))) ?_
        exact utf8_injective (Option.some.inj hshown)

/-! ## What equal reports say -/

theorem eq_of_map_eq_map {α β : Type} {f : α → β} {l l' : List α} (hf : ∀ a ∈ l, ∀ b ∈ l', f a = f b → a = b)
    (h : l.map f = l'.map f) : l = l' := by
  induction l generalizing l' with
  | nil => exact (List.map_eq_nil_iff.1 h.symm).symm
  | cons a l ih =>
      cases l' with
      | nil => cases h
      | cons b l' =>
          obtain ⟨hhead, htail⟩ := List.cons_eq_cons.1 h
          rw [hf a List.mem_cons_self b List.mem_cons_self hhead,
            ih (fun a' ha b' hb => hf a' (List.mem_cons_of_mem _ ha) b' (List.mem_cons_of_mem _ hb)) htail]

/-- What is digested for a report: what it shows of each path, and its inventory. -/
def digested (sha256 : Sha256) (environment : IsolatedWorktree) (tracked untracked : List UInt8) : Set (List UInt8) :=
  {bytes | (∃ shown ∈ shownChanges environment tracked untracked, shown.bytes = some bytes) ∨
    bytes = inventoryBytes ((shownChanges environment tracked untracked).map (recorded sha256))}

theorem exists_of_mem_shownChanges {tracked untracked : List UInt8} {shown : ShownChange}
    (h : shown ∈ shownChanges environment tracked untracked) :
    ∃ entry ∈ listing tracked untracked, shown = shownAt environment entry := by
  obtain ⟨entry, hentry, rfl⟩ := List.mem_map.1 (mem_sortByKey.1 h)
  exact ⟨entry, hentry, rfl⟩

theorem wellFormed_recorded {entry : IsolatedChangeKind × List Char} (h : Inspected environment entry) :
    (recorded sha256 (shownAt environment entry)).WellFormed where
  path := h.path
  bytes := Nat.lt_of_le_of_lt h.bytes (by decide)
  digest digest hdigest := by
    obtain ⟨bytes, -, rfl⟩ := Option.map_eq_some_iff.1 hdigest
    refine ⟨?_, isHexLower_encodeHex _⟩
    show (encodeHex (sha256.digest bytes)).length = 64
    rw [length_encodeHex, sha256.length_digest]

variable {environment' : IsolatedWorktree} {tracked untracked tracked' untracked' : List UInt8}
  {report report' : IsolatedChangeReport}

/-- Equal inventories are inventories of the same changes. -/
theorem changedFiles_eq (h : buildChangeReport sha256 environment tracked untracked = .ok report)
    (h' : buildChangeReport sha256 environment' tracked' untracked' = .ok report')
    (hinj : Set.InjOn sha256.digest
      (digested sha256 environment tracked untracked ∪ digested sha256 environment' tracked' untracked'))
    (heq : report.inventorySha256 = report'.inventorySha256) : report.changedFiles = report'.changedFiles := by
  obtain ⟨-, -, hfiles, -, hinventory, hinspected⟩ := buildChangeReport_eq_ok h
  obtain ⟨-, -, hfiles', -, hinventory', hinspected'⟩ := buildChangeReport_eq_ok h'
  rw [hinventory, hinventory'] at heq
  have hbytes : inventoryBytes report.changedFiles = inventoryBytes report'.changedFiles :=
    hinj (Or.inl (Or.inr (congrArg _ hfiles))) (Or.inr (Or.inr (congrArg _ hfiles'))) (encodeHex_injective heq)
  refine inventory_binds (fun change hchange => ?_) (fun change hchange => ?_) hbytes
  · rw [hfiles] at hchange
    obtain ⟨shown, hshown, rfl⟩ := List.mem_map.1 hchange
    obtain ⟨entry, hentry, rfl⟩ := exists_of_mem_shownChanges hshown
    exact wellFormed_recorded (hinspected entry hentry)
  · rw [hfiles'] at hchange
    obtain ⟨shown, hshown, rfl⟩ := List.mem_map.1 hchange
    obtain ⟨entry, hentry, rfl⟩ := exists_of_mem_shownChanges hshown
    exact wellFormed_recorded (hinspected' entry hentry)

/-- Equal reports show the same bytes of the same paths. -/
theorem shownChanges_eq (h : buildChangeReport sha256 environment tracked untracked = .ok report)
    (h' : buildChangeReport sha256 environment' tracked' untracked' = .ok report')
    (hinj : Set.InjOn sha256.digest
      (digested sha256 environment tracked untracked ∪ digested sha256 environment' tracked' untracked'))
    (heq : report.changedFiles = report'.changedFiles) :
    shownChanges environment tracked untracked = shownChanges environment' tracked' untracked' := by
  obtain ⟨-, -, hfiles, -⟩ := buildChangeReport_eq_ok h
  obtain ⟨-, -, hfiles', -⟩ := buildChangeReport_eq_ok h'
  rw [hfiles, hfiles'] at heq
  refine eq_of_map_eq_map (fun shown hshown shown' hshown' hrecorded => ?_) heq
  obtain ⟨kind, path, bytes⟩ := shown
  obtain ⟨kind', path', bytes'⟩ := shown'
  obtain ⟨rfl, rfl, -, hdigest⟩ := IsolatedChange.mk.inj hrecorded
  have hbytes : bytes = bytes' := by
    cases bytes with
    | none =>
        cases bytes' with
        | none => rfl
        | some contents' => cases hdigest
    | some contents =>
        cases bytes' with
        | none => cases hdigest
        | some contents' =>
            exact congrArg some (hinj (Or.inl (Or.inl ⟨_, hshown, rfl⟩)) (Or.inr (Or.inl ⟨_, hshown', rfl⟩))
              (encodeHex_injective (Option.some.inj hdigest)))
  rw [hbytes]

theorem shownBytes_eq (heq : shownChanges environment tracked untracked = shownChanges environment' tracked' untracked')
    {entry : IsolatedChangeKind × List Char} (hentry : entry ∈ listing tracked untracked) :
    shownBytes entry.1 (environment.node entry.2) = shownBytes entry.1 (environment'.node entry.2) := by
  have hmem : shownAt environment entry ∈ shownChanges environment' tracked' untracked' :=
    heq ▸ mem_sortByKey.2 (List.mem_map_of_mem hentry)
  obtain ⟨entry', -, hshown⟩ := exists_of_mem_shownChanges hmem
  obtain ⟨hkind, hpath, hbytes⟩ := ShownChange.mk.inj hshown
  rw [hbytes, hkind, hpath]

/-- **Main result.** Equal inventories are inventories of the same changes, and equal reports are reports of the same nodes
exactly if the two worktrees, where the reports show the same, hold no nodes that a report does not tell apart. -/
theorem report_binds_iff (hrevision : environment.sourceRevision = environment'.sourceRevision)
    (h : buildChangeReport sha256 environment tracked untracked = .ok report)
    (h' : buildChangeReport sha256 environment' tracked' untracked' = .ok report')
    (hinj : Set.InjOn sha256.digest
      (digested sha256 environment tracked untracked ∪ digested sha256 environment' tracked' untracked')) :
    ((report = report' → ∀ entry ∈ listing tracked untracked, environment.node entry.2 = environment'.node entry.2) ∧
      (report.inventorySha256 = report'.inventorySha256 → report.changedFiles = report'.changedFiles)) ↔
    (environment.environmentId = environment'.environmentId →
      shownChanges environment tracked untracked = shownChanges environment' tracked' untracked' →
        ∀ entry ∈ listing tracked untracked,
          ¬Confused entry.1 (environment.node entry.2) (environment'.node entry.2)) := by
  obtain ⟨hid, hrev, hfiles, htotal, hinventory, hinspected⟩ := buildChangeReport_eq_ok h
  obtain ⟨hid', hrev', hfiles', htotal', hinventory', -⟩ := buildChangeReport_eq_ok h'
  constructor
  · rintro ⟨hbinds, -⟩ henvironment hshown entry hentry hconfused
    have hchanged : report.changedFiles = report'.changedFiles := by rw [hfiles, hfiles', hshown]
    have heq : report = report' := by
      cases report
      cases report'
      rw [IsolatedChangeReport.mk.injEq]
      dsimp only at *
      refine ⟨by rw [hid, hid', henvironment], by rw [hrev, hrev', hrevision], hchanged, by rw [htotal, htotal', hchanged], ?_⟩
      rw [hinventory, hinventory', hchanged]
    exact hconfused.ne (hbinds heq entry hentry)
  · intro hclear
    refine ⟨fun heq entry hentry => ?_, changedFiles_eq h h' hinj⟩
    have hshown := shownChanges_eq h h' hinj (congrArg IsolatedChangeReport.changedFiles heq)
    have henvironment : environment.environmentId = environment'.environmentId := by rw [← hid, ← hid', heq]
    by_contra hne
    exact hclear henvironment hshown entry hentry
      (confused_of_ne (shownBytes_eq hshown hentry) (hinspected entry hentry).shown hne)

/-! ## A file in place of a link -/

/-- SHA-256 of the text `target`, and of the inventory of a report of it. -/
def sampleSha256 : Sha256 where
  digest bytes :=
    if bytes.length = 6 then
      [0x34, 0xa0, 0x40, 0x05, 0xbc, 0xaf, 0x20, 0x6e, 0xec, 0x99, 0x0b, 0xd9, 0x63, 0x7d, 0x9f, 0xdb,
       0x67, 0x25, 0xe0, 0xa0, 0xc0, 0xd4, 0xae, 0xbf, 0x00, 0x3f, 0x17, 0xf4, 0xc9, 0x56, 0xeb, 0x5c]
    else
      [0xd3, 0x7c, 0x6f, 0xdc, 0x99, 0xe9, 0xe7, 0xd1, 0xc5, 0xa3, 0xe0, 0x4c, 0xa4, 0x6e, 0x87, 0x43,
       0x58, 0x3a, 0x83, 0x63, 0x7d, 0xb5, 0xa8, 0xef, 0xed, 0x75, 0x9e, 0x57, 0x2a, 0x3c, 0x0a, 0xe2]
  length_digest bytes := by split_ifs <;> rfl

def sampleWorktree (node : Node) : IsolatedWorktree where
  environmentId := "review-1"
  sourceRevision := "0123456789abcdef0123456789abcdef01234567"
  worktree := ["state".toList, "review-1".toList, "worktree".toList]
  node path := if path = "notes".toList then some node else none

def sampleReport : IsolatedChangeReport where
  environmentId := "review-1"
  sourceRevision := "0123456789abcdef0123456789abcdef01234567"
  changedFiles := [⟨.untracked, "notes".toList, 6,
    some "34a04005bcaf206eec990bd9637d9fdb6725e0a0c0d4aebf003f17f4c956eb5c".toList⟩]
  changedBytes := 6
  inventorySha256 := "d37c6fdc99e9e7d1c5a3e04ca46e8743583a83637db5a8efed759e572a3c0ae2".toList

theorem buildChangeReport_file : buildChangeReport sampleSha256 (sampleWorktree (.file (utf8 "target".toList))) []
    (utf8 "notes\x00".toList) = .ok sampleReport := by
  decide +kernel

theorem buildChangeReport_link : buildChangeReport sampleSha256 (sampleWorktree (.symlink (utf8 "target".toList))) []
    (utf8 "notes\x00".toList) = .ok sampleReport := by
  decide +kernel

/-- Two texts are digested for the report, and they have different digests. -/
theorem sampleSha256_injOn {node : Node}
    (h : shownChanges (sampleWorktree node) [] (utf8 "notes\x00".toList) =
      [⟨.untracked, "notes".toList, some (utf8 "target".toList)⟩]) :
    ∀ bytes ∈ digested sampleSha256 (sampleWorktree node) [] (utf8 "notes\x00".toList),
      bytes = utf8 "target".toList ∨ bytes = inventoryBytes sampleReport.changedFiles := by
  rintro bytes (⟨shown, hshown, hbytes⟩ | hbytes)
  · rw [h, List.mem_singleton] at hshown
    subst hshown
    exact Or.inl (Option.some.inj hbytes).symm
  · rw [h] at hbytes
    refine Or.inr (hbytes.trans (congrArg inventoryBytes ?_))
    decide

theorem sampleSha256_injOn_union {node node' : Node}
    (h : shownChanges (sampleWorktree node) [] (utf8 "notes\x00".toList) =
      [⟨.untracked, "notes".toList, some (utf8 "target".toList)⟩])
    (h' : shownChanges (sampleWorktree node') [] (utf8 "notes\x00".toList) =
      [⟨.untracked, "notes".toList, some (utf8 "target".toList)⟩]) :
    Set.InjOn sampleSha256.digest (digested sampleSha256 (sampleWorktree node) [] (utf8 "notes\x00".toList) ∪
      digested sampleSha256 (sampleWorktree node') [] (utf8 "notes\x00".toList)) := by
  have hne : sampleSha256.digest (utf8 "target".toList) ≠
      sampleSha256.digest (inventoryBytes sampleReport.changedFiles) := by decide
  have hall (bytes : List UInt8) (hbytes : bytes ∈ digested sampleSha256 (sampleWorktree node) []
      (utf8 "notes\x00".toList) ∪ digested sampleSha256 (sampleWorktree node') [] (utf8 "notes\x00".toList)) :
      bytes = utf8 "target".toList ∨ bytes = inventoryBytes sampleReport.changedFiles :=
    hbytes.elim (sampleSha256_injOn h bytes) (sampleSha256_injOn h' bytes)
  intro bytes hbytes bytes' hbytes' heq
  rcases hall bytes hbytes with rfl | rfl <;> rcases hall bytes' hbytes' with rfl | rfl
  · rfl
  · exact absurd heq hne
  · exact absurd heq.symm hne
  · rfl

theorem shownChanges_file : shownChanges (sampleWorktree (.file (utf8 "target".toList))) [] (utf8 "notes\x00".toList) =
    [⟨.untracked, "notes".toList, some (utf8 "target".toList)⟩] := by decide

theorem shownChanges_link :
    shownChanges (sampleWorktree (.symlink (utf8 "target".toList))) [] (utf8 "notes\x00".toList) =
      [⟨.untracked, "notes".toList, some (utf8 "target".toList)⟩] := by decide

/-- Nothing is confused with itself. -/
theorem report_binds_iff_file :
    (listing [] (utf8 "notes\x00".toList)).map (fun entry => (sampleWorktree (.file (utf8 "target".toList))).node entry.2) =
      (listing [] (utf8 "notes\x00".toList)).map fun entry => (sampleWorktree (.file (utf8 "target".toList))).node entry.2 :=
  List.map_congr_left (((report_binds_iff rfl buildChangeReport_file buildChangeReport_file
    (sampleSha256_injOn_union shownChanges_file shownChanges_file)).2
      fun _ _ _ _ hconfused => hconfused.ne rfl).1 rfl)

/-- An untracked file and a link to what the file holds have the same report. -/
theorem link_passes_for_file :
    ¬∀ (sha256 : Sha256) (environment environment' : IsolatedWorktree) (tracked untracked tracked' untracked' : List UInt8)
      (report report' : IsolatedChangeReport), environment.sourceRevision = environment'.sourceRevision →
        buildChangeReport sha256 environment tracked untracked = .ok report →
        buildChangeReport sha256 environment' tracked' untracked' = .ok report' →
        Set.InjOn sha256.digest
          (digested sha256 environment tracked untracked ∪ digested sha256 environment' tracked' untracked') →
        report = report' →
          ∀ entry ∈ listing tracked untracked, environment.node entry.2 = environment'.node entry.2 := by
  intro hclaim
  have hnode := hclaim sampleSha256 (sampleWorktree (.file (utf8 "target".toList)))
    (sampleWorktree (.symlink (utf8 "target".toList))) [] (utf8 "notes\x00".toList) [] (utf8 "notes\x00".toList) sampleReport
    sampleReport rfl buildChangeReport_file buildChangeReport_link
    (sampleSha256_injOn_union shownChanges_file shownChanges_link) rfl (.untracked, "notes".toList) (by decide)
  revert hnode
  decide

end HyperTerm.Sandbox.Worktree
