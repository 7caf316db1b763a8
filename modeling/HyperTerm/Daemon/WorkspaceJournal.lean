import HyperTerm.Daemon.WorkspaceSelection
import HyperTerm.Lib.CrashSafety
import HyperTerm.Workbench.Locales

/-!
# The journal of workspace transactions

A transaction on the workspace is known after a crash by its manifest, a file of a private directory that is written and
removed while other transactions have theirs.

* `WorkspaceTransactionManifest`, `validateWorkspaceTransactionManifest` : a manifest and its checks;
* `JournalOp`, `effect`, `exec` : the atomic steps on the directory, any of which may fail;
* `writeWorkspaceTransactionManifest`, `acknowledgeWorkspaceTransaction` : a manifest replaces the one before it by a
  rename, and is removed;
* `parseManifest` : what is read back;
* `Settles`, `SettlesAll` : what the calls mean for a table of manifests: each takes effect at once, or not at all;
* `journal_refines` : so they do on the directory, wherever a crash cuts one off;
* `writeManifest_completes` : a manifest that passes the checks is written by a machine that works.
-/

namespace HyperTerm.Daemon.WorkspaceTransaction
open HyperTerm.Protocol HyperTerm.Lib HyperTerm.Lib.Paths HyperTerm.Lib.Prog HyperTerm.Daemon.WorkspaceApply

def workspaceTransactionSchemaVersion : Nat := 1

def maxWorkspaceTransactionManifestBytes : Nat := 256 * 1024

/-! ## Manifests -/

inductive WorkspaceTransactionPhase where
  | preparing
  | prepared
  | rollingBack
  | committed
  | rolledBack
  deriving DecidableEq

structure WorkspaceRecoveryIdentity where
  digest : String
  device : Nat
  inode : Nat
  mode : Nat
  deriving DecidableEq

structure WorkspaceTransactionMember where
  targetPath : String
  parentDevice : Nat
  parentInode : Nat
  stageName : String
  backupName : Option String
  base : Option WorkspaceRecoveryIdentity
  proposedDigest : String
  proposedMode : Nat
  delete : Bool
  staged : Option WorkspaceRecoveryIdentity
  backup : Option WorkspaceRecoveryIdentity
  deriving DecidableEq

structure WorkspaceTransactionManifest where
  schemaVersion : Nat
  transactionId : Uuid
  taskId : TaskId
  operationId : OperationId
  operationRevision : Nat
  resultDigest : String
  phase : WorkspaceTransactionPhase
  failureSummary : Option String
  members : List WorkspaceTransactionMember
  deriving DecidableEq

/-- What the journal gives of `WorkspaceApplyError`. -/
inductive TransactionError where
  | apply (error : WorkspaceApplyError)
  | recoveryRequired (reason : String)
  deriving DecidableEq

/-- `mode & 0o7777`. -/
def permissionBits (mode : Nat) : Nat := mode % 4096

def workspaceStageName (transactionId : Uuid) (index : Nat) : String :=
  ".hyper-term-apply-" ++ transactionId.text ++ "-" ++ toString index ++ ".tmp"

def workspaceBackupName (transactionId : Uuid) (index : Nat) : String :=
  ".hyper-term-apply-" ++ transactionId.text ++ "-" ++ toString index ++ ".base"

/-! ## The checks of a manifest -/

/-- A manifest that has to know what was staged. -/
def requiresStagedIdentity (manifest : WorkspaceTransactionManifest) : Bool :=
  match manifest.phase with
  | .prepared | .rollingBack | .committed => true
  | .rolledBack => !manifest.members.all fun member => member.staged.isNone && member.backup.isNone
  | .preparing => false

/-- The shape of one member; `index` is its place in the manifest. -/
def invalidMember (manifest : WorkspaceTransactionManifest) (index : Nat) (member : WorkspaceTransactionMember) : Bool :=
  let required := requiresStagedIdentity manifest
  let invalidDigest (identity : WorkspaceRecoveryIdentity) := !isSha256 identity.digest
  member.stageName != workspaceStageName manifest.transactionId index ||
    member.backupName != member.base.map (fun _ => workspaceBackupName manifest.transactionId index) ||
    !isSha256 member.proposedDigest || decide (0o7777 < member.proposedMode) ||
    member.delete && member.base.isNone ||
    required && member.delete && member.staged.isSome ||
    required && !member.delete && member.staged.isNone ||
    member.staged.isSome && (member.base.isSome != member.backup.isSome) ||
    required && (member.base.isSome != member.backup.isSome) ||
    member.base.any invalidDigest || member.staged.any invalidDigest || member.backup.any invalidDigest

/-- The loop over the members: `targets` are the texts seen so far. -/
def validateMembers (manifest : WorkspaceTransactionManifest) (targets : List String) (index : Nat) :
    List WorkspaceTransactionMember → Except TransactionError Unit
  | [] => .ok ()
  | member :: members => do
      let _ ← (validateTargetPath member.targetPath).mapError .apply
      if member.targetPath ∈ targets ∨ invalidMember manifest index member then
        .error (.recoveryRequired "transaction manifest member is invalid")
      else if member.staged.any fun staged =>
          staged.digest != member.proposedDigest || permissionBits staged.mode != member.proposedMode then
        .error (.recoveryRequired "transaction staged identity does not match the proposal")
      else if member.base.isSome ∧ member.backup.isSome ∧ member.base ≠ member.backup then
        .error (.recoveryRequired "transaction backup identity does not match the reviewed base")
      else validateMembers manifest (member.targetPath :: targets) (index + 1) members

def validateWorkspaceTransactionManifest (manifest : WorkspaceTransactionManifest) : Except TransactionError Unit :=
  if manifest.schemaVersion ≠ workspaceTransactionSchemaVersion ∨ manifest.operationRevision = 0 ∨
      !isSha256 manifest.resultDigest ∨ manifest.members = [] ∨ maxWorkspaceApplyFiles < manifest.members.length ∨
      manifest.failureSummary.any fun summary => 16 * 1024 < summary.utf8ByteSize then
    .error (.recoveryRequired "transaction manifest header is invalid")
  else validateMembers manifest [] 0 manifest.members

/-! ## The directory -/

/-- The files of the directory of manifests. -/
abbrev Journal : Type := OrderedMap String (List UInt8)

/-- How a step of the file system fails. -/
inductive FsError where
  | notFound
  | alreadyExists
  | failed (error : String)

def FsError.text : FsError → String
  | .notFound => "No such file or directory (os error 2)"
  | .alreadyExists => "File exists (os error 17)"
  | .failed error => error

def io (error : FsError) : TransactionError := .apply (.io error.text)

/-- The atomic steps. A write is one step for each byte. -/
inductive JournalOp where
  /-- The directory is made when it is missing, and kept private. -/
  | openRoot
  /-- A name for a temporary manifest; no step of the file system. -/
  | newTemporary (transactionId : Uuid)
  | createTemporary (name : String)
  | appendTemporary (name : String) (byte : UInt8)
  /-- `sync_all` of a file or of the directory. -/
  | sync
  | renameTemporary (name target : String)
  | remove (name : String)

def JournalOp.canFail : JournalOp → Bool
  | .newTemporary _ => false
  | _ => true

def Result : JournalOp → Type
  | .newTemporary _ => String
  | _ => Unit

abbrev Answer (op : JournalOp) : Type := Except FsError (Result op)

structure JournalWorld where
  journal : Journal
  clock : Nat

/-- What the machine decides at the n-th step, and the crates that encode a manifest. -/
structure JournalHost where
  /-- A failure that the directory does not account for. -/
  fault : Nat → Option String
  temporary : Nat → Uuid
  encode : WorkspaceTransactionManifest → List UInt8
  decode : List UInt8 → Except String WorkspaceTransactionManifest

def workspaceTransactionManifestPath (transactionId : Uuid) : String := transactionId.text ++ ".json"

def temporaryPath (transactionId temporary : Uuid) : String :=
  "." ++ transactionId.text ++ "." ++ temporary.text ++ ".tmp"

/-- What recovery takes for a temporary manifest, and removes. -/
def isTemporary (name : String) : Bool := name.toList.head? = some '.' && ".tmp".toList.isSuffixOf name.toList

variable (H : JournalHost)

/-- What a step does when nothing stands in its way but the directory itself. -/
def effect (clock : Nat) : (op : JournalOp) → Journal → Except FsError (Journal × Result op)
  | .openRoot, journal => .ok (journal, ())
  | .newTemporary transactionId, journal => .ok (journal, temporaryPath transactionId (H.temporary clock))
  | .createTemporary name, journal =>
      if (journal.get? name).isSome then .error .alreadyExists else .ok (journal.insert name [], ())
  | .appendTemporary name byte, journal => .ok (journal.insert name ((journal.get? name).getD [] ++ [byte]), ())
  | .sync, journal => .ok (journal, ())
  | .renameTemporary name target, journal =>
      match journal.get? name with
      | none => .error .notFound
      | some bytes => .ok ((journal.erase name).insert target bytes, ())
  | .remove name, journal =>
      if (journal.get? name).isSome then .ok (journal.erase name, ()) else .error .notFound

/-- One step of the world. A step that fails does nothing, and what a step has done survives a crash. -/
def exec (op : JournalOp) (world : JournalWorld) : JournalWorld × Answer op :=
  match if op.canFail then H.fault world.clock else none with
  | some fault => (⟨world.journal, world.clock + 1⟩, .error (.failed fault))
  | none =>
      match effect H world.clock op world.journal with
      | .error error => (⟨world.journal, world.clock + 1⟩, .error error)
      | .ok (journal, result) => (⟨journal, world.clock + 1⟩, .ok result)

/-! ## Programs on the directory -/

abbrev Program (α : Type) : Type := Prog JournalOp Answer TransactionError α

/-- One step, with what the program makes of its answer. -/
def sys {α : Type} (op : JournalOp) (answered : Answer op → Except TransactionError α) : Program α :=
  .call op fun answer => .ret (answered answer)

def lift {α : Type} (x : Except TransactionError α) : Program α := .ret x

def syncAll : Program Unit := sys .sync fun answer => answer.mapError io

def workspaceTransactionRoot : Program Unit := sys .openRoot fun answer => answer.mapError io

/-- `write_all` on a temporary manifest. -/
def writeTemporary (name : String) : List UInt8 → Program Unit
  | [] => pure ()
  | byte :: bytes => do
      sys (.appendTemporary name byte) fun answer => answer.mapError io
      writeTemporary name bytes

/-- The bytes are written to a new file, which then takes the name of the manifest. -/
def replaceManifest (transactionId : Uuid) (temporary : String) (bytes : List UInt8) : Program Unit := do
  sys (.createTemporary temporary) fun answer => answer.mapError io
  writeTemporary temporary bytes
  syncAll
  sys (.renameTemporary temporary (workspaceTransactionManifestPath transactionId)) fun answer => answer.mapError io
  syncAll

def removeTemporary (name : String) : Program Unit := sys (.remove name) fun _ => .ok ()

def writeWorkspaceTransactionManifest (manifest : WorkspaceTransactionManifest) : Program Unit := do
  lift (validateWorkspaceTransactionManifest manifest)
  if maxWorkspaceTransactionManifestBytes < (H.encode manifest).length then lift (.error (.apply .tooLarge)) else do
    let temporary ← sys (.newTemporary manifest.transactionId) fun answer => answer.mapError io
    let written ← (replaceManifest manifest.transactionId temporary (H.encode manifest)).attempt
    match written with
    | .ok () => pure ()
    | .error error => do
        removeTemporary temporary
        lift (.error error)

def acknowledgeWorkspaceTransaction (transactionId : Uuid) : Program Unit := do
  workspaceTransactionRoot
  let removed ← sys (.remove (workspaceTransactionManifestPath transactionId)) fun
    | .ok () => .ok true
    | .error .notFound => .ok false
    | .error error => .error (io error)
  if removed then syncAll else pure ()

/-- What the bytes of a manifest say. -/
def parseManifest (bytes : List UInt8) : Except TransactionError WorkspaceTransactionManifest :=
  if maxWorkspaceTransactionManifestBytes < bytes.length then
    .error (.recoveryRequired "transaction manifest is not a bounded regular file")
  else
    match H.decode bytes with
    | .error error => .error (.recoveryRequired ("transaction manifest is invalid JSON: " ++ error))
    | .ok manifest => do
        validateWorkspaceTransactionManifest manifest
        return manifest

/-! ## Calls and what they mean -/

inductive JournalCall where
  | write (manifest : WorkspaceTransactionManifest)
  | acknowledge (transactionId : Uuid)
  deriving DecidableEq

/-- A call returns, with whether it succeeds, or is cut off. -/
inductive JournalOutcome where
  | returned (ok : Bool)
  | crashed
  deriving DecidableEq

def JournalCall.program : JournalCall → Program Unit
  | .write manifest => writeWorkspaceTransactionManifest H manifest
  | .acknowledge transactionId => acknowledgeWorkspaceTransaction transactionId

def JournalCall.Ran (call : JournalCall) (world : JournalWorld) : JournalOutcome → JournalWorld → Prop
  | .returned ok, world' =>
      ((call.program H).run (exec H) world).1 = world' ∧ ((call.program H).run (exec H) world).2.isOk = ok
  | .crashed, world' => (call.program H).CrashesAt (exec H) world world'

/-- Calls that follow each other. -/
def RanAll : JournalWorld → List (JournalCall × JournalOutcome) → JournalWorld → Prop
  | world, [], world' => world = world'
  | world, (first, outcome) :: calls, world' => ∃ next, first.Ran H world outcome next ∧ RanAll next calls world'

/-- The manifests of the transactions that have one. -/
abbrev Manifests : Type := Uuid → Option WorkspaceTransactionManifest

/-- A call has its effect or none, and one that succeeds has it. -/
def Settles (table : Manifests) (call : JournalCall) (outcome : JournalOutcome) (table' : Manifests) : Prop :=
  table' = table ∧ outcome ≠ .returned true ∨
    match call with
    | .write manifest => table' = Function.update table manifest.transactionId (some manifest)
    | .acknowledge transactionId => table' = Function.update table transactionId none

def SettlesAll : Manifests → List (JournalCall × JournalOutcome) → Manifests → Prop
  | table, [], table' => table = table'
  | table, (first, outcome) :: calls, table' =>
      ∃ next, Settles table first outcome next ∧ SettlesAll next calls table'

/-- A manifest that is written passes its checks, and fits. -/
def Checked (manifest : WorkspaceTransactionManifest) : Prop :=
  validateWorkspaceTransactionManifest manifest = .ok () ∧
    (H.encode manifest).length ≤ maxWorkspaceTransactionManifestBytes

/-- The files are the manifests of the table, each in full and under its name, and temporary ones. -/
structure Represents (table : Manifests) (journal : Journal) : Prop where
  file : ∀ id, journal.get? (workspaceTransactionManifestPath id) = (table id).map H.encode
  name : ∀ name, isTemporary name = false → journal.get? name ≠ none →
    ∃ id, name = workspaceTransactionManifestPath id
  checked : ∀ id manifest, table id = some manifest → manifest.transactionId = id ∧ Checked H manifest


variable {H} {α β : Type}

/-! ## Triples on the directory -/

variable (H) in
/-- A triple about the directory: what holds of it does not depend on the clock. -/
def Spec (inv pre : Journal → Prop) (p : Program α) (post : Except TransactionError α → Journal → Prop) : Prop :=
  CrashTriple (exec H) (fun w => inv w.journal) (fun w => pre w.journal) p fun r w => post r w.journal

/-- No step fails for a reason of its own. -/
def Calm (H : JournalHost) : Prop := ∀ n, H.fault n = none

variable (H) in
/-- A step can be refused by what the directory holds, or by the machine. -/
def Refused (op : JournalOp) (journal : Journal) (error : FsError) : Prop :=
  (∃ clock, effect H clock op journal = .error error) ∨ ¬Calm H ∧ error ≠ .notFound

variable {inv pre pre' : Journal → Prop} {post post' : Except TransactionError α → Journal → Prop}

theorem Spec.consequence {p : Program α} (h : Spec H inv pre p post) (hpre : ∀ d, pre' d → pre d)
    (hpost : ∀ r d, inv d → post r d → post' r d) : Spec H inv pre' p post' :=
  CrashTriple.consequence h (fun w => hpre w.journal) fun r w => hpost r w.journal

theorem Spec.seq (mid : Except TransactionError α → Journal → Prop) {post : Except TransactionError β → Journal → Prop}
    {p : Program α} {f : α → Program β} (hp : Spec H inv pre p mid)
    (hf : ∀ a, Spec H inv (fun d => inv d ∧ mid (.ok a) d) (f a) post)
    (herr : ∀ e d, inv d → mid (.error e) d → post (.error e) d) : Spec H inv pre (p >>= f) post :=
  CrashTriple.bind hp (fun a => hf a) fun e w => herr e w.journal

theorem Spec.attempt {post : Except TransactionError (Except TransactionError α) → Journal → Prop} {p : Program α}
    (h : Spec H inv pre p fun r => post (.ok r)) :
    Spec H inv pre (p.attempt : Program (Except TransactionError α)) post := CrashTriple.attempt h

/-- What the precondition says whatever the directory is. -/
theorem Spec.of_fact {F : Prop} {p : Program α} (hfact : ∀ d, pre d → F) (h : F → Spec H inv pre p post) :
    Spec H inv pre p post := fun w hw => h (hfact w.journal hw) w hw

theorem spec_lift {r : Except TransactionError α} (hinv : ∀ d, pre d → inv d) (h : ∀ d, pre d → post r d) :
    Spec H inv pre (lift r) post := crashTriple_ret (fun w => hinv w.journal) fun w => h w.journal

theorem spec_pure {a : α} (hinv : ∀ d, pre d → inv d) (h : ∀ d, pre d → post (.ok a) d) :
    Spec H inv pre (pure a : Program α) post := spec_lift hinv h

/-- One step, which is refused or has its effect. -/
theorem sys_spec {op : JournalOp} {answered : Answer op → Except TransactionError α} (hpre : ∀ d, pre d → inv d)
    (hrefused : ∀ d e, pre d → Refused H op d e → post (answered (.error e)) d)
    (hdone : ∀ clock d d' r, pre d → effect H clock op d = .ok (d', r) → inv d' ∧ post (answered (.ok r)) d') :
    Spec H inv pre (sys op answered) post := by
  intro w hw
  refine ⟨hpre _ hw, ?_⟩
  show (ret (answered (exec H op w).2) : Program α).CrashSafe _ _ _ (exec H op w).1
  unfold exec
  split
  · rename_i fault hfault
    refine ⟨hpre _ hw, hrefused _ _ hw (.inr ⟨fun hcalm => ?_, nofun⟩)⟩
    rw [hcalm, ite_self] at hfault
    exact nomatch hfault
  · split
    · rename_i error herror
      exact ⟨hpre _ hw, hrefused _ _ hw (.inl ⟨_, herror⟩)⟩
    · rename_i journal result hresult
      exact hdone _ _ _ _ hw hresult

theorem Refused.not_calm {op : JournalOp} {journal : Journal} {error : FsError} (h : Refused H op journal error)
    (heffect : ∀ clock, ∃ done, effect H clock op journal = .ok done) : ¬Calm H := by
  rcases h with ⟨clock, h⟩ | h
  · obtain ⟨done, hdone⟩ := heffect clock
    rw [hdone] at h
    exact nomatch h
  · exact h.1

theorem syncAll_spec (hpre : ∀ d, pre d → inv d) :
    Spec H inv pre syncAll (Meets (fun _ d => pre d) fun _ d => pre d ∧ ¬Calm H) := by
  refine sys_spec hpre (fun d e hd he => ⟨hd, he.not_calm fun _ => ⟨_, rfl⟩⟩) fun clock d d' r hd h => ?_
  obtain ⟨rfl, -⟩ := Prod.mk.inj (Except.ok.inj h)
  exact ⟨hpre _ hd, hd⟩

theorem workspaceTransactionRoot_spec (hpre : ∀ d, pre d → inv d) :
    Spec H inv pre workspaceTransactionRoot (Meets (fun _ d => pre d) fun _ _ => True) := by
  refine sys_spec hpre (fun d e hd he => trivial) fun clock d d' r hd h => ?_
  obtain ⟨rfl, -⟩ := Prod.mk.inj (Except.ok.inj h)
  exact ⟨hpre _ hd, hd⟩

/-! ## Names -/

theorem hexDigit_ne_dot : ∀ n : Fin 16, hexDigit n ≠ '.' := by decide

theorem uuidText_head (u : Uuid) : ∃ n : Fin 16, ∃ rest, u.text.toList = hexDigit n :: rest := by
  have htext : u.text.toList = (u.text.toList.take 1) ++ u.text.toList.drop 1 := (List.take_append_drop 1 _).symm
  refine ⟨⟨u.toNat / 16 ^ 31 % 16, Nat.mod_lt _ (by decide)⟩, u.text.toList.drop 1, ?_⟩
  refine htext.trans ?_
  unfold Uuid.text Uuid.hexDigits
  rw [String.toList_ofList]
  rfl

theorem isTemporary_temporaryPath (id u : Uuid) : isTemporary (temporaryPath id u) = true := by
  have hlist : (temporaryPath id u).toList =
      '.' :: (id.text.toList ++ ".".toList ++ u.text.toList) ++ ".tmp".toList := by
    unfold temporaryPath
    rw [String.toList_append, String.toList_append, String.toList_append, String.toList_append]
    rfl
  unfold isTemporary
  rw [hlist, Bool.and_eq_true, List.isSuffixOf_iff_suffix]
  exact ⟨by rw [List.cons_append]; exact decide_eq_true rfl, List.suffix_append _ _⟩

theorem manifestPath_toList (id : Uuid) :
    (workspaceTransactionManifestPath id).toList = id.text.toList ++ ".json".toList := by
  unfold workspaceTransactionManifestPath
  rw [String.toList_append]

theorem isTemporary_manifestPath (id : Uuid) : isTemporary (workspaceTransactionManifestPath id) = false := by
  obtain ⟨n, rest, htext⟩ := uuidText_head id
  unfold isTemporary
  rw [manifestPath_toList, htext, List.cons_append, List.head?_cons, Bool.and_eq_false_iff]
  exact .inl (decide_eq_false fun h => hexDigit_ne_dot n (Option.some.inj h))

theorem manifestPath_injective : Function.Injective workspaceTransactionManifestPath := by
  intro id id' h
  have hlist := congrArg String.toList h
  rw [manifestPath_toList, manifestPath_toList] at hlist
  exact Workbench.Uuid.text_injective (String.toList_inj.mp (List.append_cancel_right hlist))

/-! ## Writing and removing -/

/-- The names that the machine chooses for temporary manifests are free. -/
def FreshTemporaries (H : JournalHost) (id : Uuid) (journal : Journal) : Prop :=
  ∀ n, journal.get? (temporaryPath id (H.temporary n)) = none

/-- A file with the bytes, beside what was there. -/
def Beside (before : Journal) (file : String) (bytes : List UInt8) (journal : Journal) : Prop :=
  ∀ name, journal.get? name = if name = file then some bytes else before.get? name

/-- The file has this content, and those that are not temporary manifests are the same otherwise. -/
def Replaces (file : String) (content : Option (List UInt8)) (before journal : Journal) : Prop :=
  ∀ name, isTemporary name = false → journal.get? name = if name = file then content else before.get? name

/-- The files that are not temporary manifests are the same. -/
def SamePersistent (before journal : Journal) : Prop :=
  ∀ name, isTemporary name = false → journal.get? name = before.get? name

/-- What a crash leaves of a change of one file: the content before, or the new one. -/
def Between (changes : Prop) (file : String) (content : Option (List UInt8)) (before journal : Journal) : Prop :=
  SamePersistent before journal ∨ changes ∧ Replaces file content before journal

variable {manifest : WorkspaceTransactionManifest} {before : Journal} {temporary : String}

/-- What a crash leaves while a manifest is written. -/
abbrev BetweenManifests (H : JournalHost) (manifest : WorkspaceTransactionManifest) : Journal → Journal → Prop :=
  Between (Checked H manifest) (workspaceTransactionManifestPath manifest.transactionId) (some (H.encode manifest))

theorem ne_of_isTemporary {name : String} (htemporary : isTemporary temporary = true) (h : isTemporary name = false) :
    name ≠ temporary := by
  rintro rfl
  rw [htemporary] at h
  exact nomatch h

theorem Beside.between (htemporary : isTemporary temporary = true) {written : List UInt8} {journal : Journal}
    (h : Beside before temporary written journal) : BetweenManifests H manifest before journal := by
  refine .inl fun name hname => ?_
  rw [h, if_neg (ne_of_isTemporary htemporary hname)]

/-- By induction on the bytes that are left, behind those that are written. -/
theorem writeTemporary_spec (htemporary : isTemporary temporary = true) (written bytes : List UInt8) :
    Spec H (BetweenManifests H manifest before) (Beside before temporary written) (writeTemporary temporary bytes)
      (Meets (fun _ d => Beside before temporary (written ++ bytes) d) fun _ _ => ¬Calm H) := by
  induction bytes generalizing written with
  | nil =>
      refine spec_pure (fun d hd => hd.between htemporary) fun d hd => ?_
      rwa [List.append_nil]
  | cons byte bytes ih =>
      refine Spec.seq (Meets (fun _ d => Beside before temporary (written ++ [byte]) d) fun _ _ => ¬Calm H)
        (sys_spec (fun d hd => hd.between htemporary) (fun d e hd he => he.not_calm fun _ => ⟨_, rfl⟩)
          fun clock d d' r hd h => ?_) (fun _ => ?_) fun e d hi he => he
      · obtain ⟨rfl, -⟩ := Prod.mk.inj (Except.ok.inj h)
        have hbeside : Beside before temporary (written ++ [byte])
            (d.insert temporary ((d.get? temporary).getD [] ++ [byte])) := by
          intro name
          rw [OrderedMap.get?_insert, hd temporary, if_pos rfl, hd name]
          split <;> rfl
        exact ⟨hbeside.between htemporary, hbeside⟩
      · have hrest := ih (written ++ [byte])
        rw [List.append_assoc] at hrest
        exact hrest.consequence (fun d hd => hd.2) fun r d _ h => h

/-- The new manifest is complete before it takes the name of the one before. -/
theorem replaceManifest_spec (hchecked : Checked H manifest) (htemporary : isTemporary temporary = true) :
    Spec H (BetweenManifests H manifest before) (fun d => d = before)
      (replaceManifest manifest.transactionId temporary (H.encode manifest))
      (Meets (fun _ d =>
          Beside before (workspaceTransactionManifestPath manifest.transactionId) (H.encode manifest) d)
        fun _ _ => ¬Calm H ∨ before.get? temporary ≠ none) := by
  have hsame : BetweenManifests H manifest before before := .inl fun _ _ => rfl
  have hnew {d : Journal} (h : Beside before (workspaceTransactionManifestPath manifest.transactionId)
      (H.encode manifest) d) : BetweenManifests H manifest before d := .inr ⟨hchecked, fun name _ => h name⟩
  refine Spec.seq (Meets (fun _ d => Beside before temporary [] d ∧ before.get? temporary = none)
    fun _ _ => ¬Calm H ∨ before.get? temporary ≠ none) (sys_spec (fun d hd => hd ▸ hsame) (fun d e hd he => ?_)
      fun clock d d' r hd h => ?_) (fun _ => ?_) fun e d hi he => he
  · obtain rfl := hd
    by_cases hfree : d.get? temporary = none
    · refine .inl (he.not_calm fun clock => ⟨_, if_neg ?_⟩)
      rw [hfree]
      exact Bool.false_ne_true
    · exact .inr hfree
  · obtain rfl := hd
    rw [effect] at h
    split at h
    · exact nomatch h
    · rename_i hfree
      obtain ⟨rfl, -⟩ := Prod.mk.inj (Except.ok.inj h)
      have hbeside : Beside d temporary [] (d.insert temporary []) := fun name => OrderedMap.get?_insert ..
      exact ⟨hbeside.between htemporary, hbeside, by simpa using hfree⟩
  refine Spec.of_fact (F := before.get? temporary = none) (fun d hd => hd.2.2) fun hfree => ?_
  refine Spec.seq (Meets (fun _ d => Beside before temporary ([] ++ H.encode manifest) d) fun _ _ => ¬Calm H)
    ((writeTemporary_spec htemporary [] (H.encode manifest)).consequence (fun d hd => hd.2.1) fun r d _ h => h)
    (fun _ => ?_) fun e d hi he => .inl he
  rw [List.nil_append]
  refine Spec.seq (Meets (fun _ d =>
      BetweenManifests H manifest before d ∧ Beside before temporary (H.encode manifest) d)
    fun _ _ => ¬Calm H) ((syncAll_spec fun d hd => hd.1).consequence (fun d hd => hd) fun r d _ h => ?_) (fun _ => ?_)
      fun e d hi he => .inl he
  · cases r with
    | ok _ => exact h
    | error e => exact h.2
  refine Spec.seq (Meets (fun _ d =>
      Beside before (workspaceTransactionManifestPath manifest.transactionId) (H.encode manifest) d)
    fun _ _ => ¬Calm H) (sys_spec (fun d hd => hd.1) (fun d e hd he => he.not_calm fun clock => ?_)
      fun clock d d' r hd h => ?_) (fun _ => ?_) fun e d hi he => .inl he
  · have hpresent : d.get? temporary = some (H.encode manifest) := (hd.2.2 temporary).trans (if_pos rfl)
    exact ⟨_, by rw [effect, hpresent]⟩
  · have hbeside := hd.2.2
    have hpresent : d.get? temporary = some (H.encode manifest) := (hbeside temporary).trans (if_pos rfl)
    rw [effect, hpresent] at h
    obtain ⟨rfl, -⟩ := Prod.mk.inj (Except.ok.inj h)
    have hdone : Beside before (workspaceTransactionManifestPath manifest.transactionId) (H.encode manifest)
        ((d.erase temporary).insert (workspaceTransactionManifestPath manifest.transactionId) (H.encode manifest)) := by
      intro name
      rw [OrderedMap.get?_insert, OrderedMap.get?_erase, hbeside]
      split
      · rfl
      · split
        · rename_i heq
          rw [heq, hfree]
        · rfl
    exact ⟨hnew hdone, hdone⟩
  · refine (syncAll_spec fun d hd => hd.1).consequence (fun d hd => hd) fun r d _ h => ?_
    cases r with
    | ok _ => exact h.2
    | error e => exact .inl h.2

theorem removeTemporary_spec (htemporary : isTemporary temporary = true) :
    Spec H (BetweenManifests H manifest before) (BetweenManifests H manifest before) (removeTemporary temporary)
      (Meets (fun _ _ => True) fun _ _ => False) := by
  refine sys_spec (fun d hd => hd) (fun d e hd he => trivial) fun clock d d' r hd h => ⟨?_, trivial⟩
  rw [effect] at h
  split at h
  · obtain ⟨rfl, -⟩ := Prod.mk.inj (Except.ok.inj h)
    have herase (name : String) (hname : isTemporary name = false) : (d.erase temporary).get? name = d.get? name := by
      rw [OrderedMap.get?_erase, if_neg (ne_of_isTemporary htemporary hname)]
    exact hd.imp (fun h name hname => (herase name hname).trans (h name hname))
      fun h => ⟨h.1, fun name hname => (herase name hname).trans (h.2 name hname)⟩
  · exact nomatch h

/-- A crash leaves the manifest before or the new one; nothing but the machine, the checks of the manifest and a name that
is taken make the write fail. -/
theorem writeManifest_spec :
    Spec H (BetweenManifests H manifest before) (fun d => d = before) (writeWorkspaceTransactionManifest H manifest)
      (Meets (fun _ d => Checked H manifest ∧
          Beside before (workspaceTransactionManifestPath manifest.transactionId) (H.encode manifest) d)
        fun _ _ => ¬Calm H ∨ ¬Checked H manifest ∨ ¬FreshTemporaries H manifest.transactionId before) := by
  have hsame {d : Journal} (h : d = before) : BetweenManifests H manifest before d := h ▸ .inl fun _ _ => rfl
  refine Spec.seq (Meets (fun _ d => d = before ∧ validateWorkspaceTransactionManifest manifest = .ok ())
    fun _ _ => ¬Checked H manifest) (spec_lift (fun d hd => hsame hd) fun d hd => ?_) (fun _ => ?_)
    fun e d hi he => .inr (.inl he)
  · cases hvalid : validateWorkspaceTransactionManifest manifest with
    | ok _ => exact ⟨hd, rfl⟩
    | error e => exact fun hchecked => nomatch hvalid.symm.trans hchecked.1
  refine Spec.of_fact (F := validateWorkspaceTransactionManifest manifest = .ok ()) (fun d hd => hd.2.2) fun hvalid => ?_
  split
  · rename_i hlong
    exact spec_lift (fun d hd => hd.1) fun d hd => .inr (.inl fun hchecked => Nat.not_lt.mpr hchecked.2 hlong)
  rename_i hshort
  have hchecked : Checked H manifest := ⟨hvalid, Nat.not_lt.mp hshort⟩
  refine Spec.seq (Meets (fun temporary d => d = before ∧ ∃ n, temporary = temporaryPath manifest.transactionId
    (H.temporary n)) fun _ _ => ¬Calm H) (sys_spec (fun d hd => hd.1) (fun d e hd he => he.not_calm fun _ => ⟨_, rfl⟩)
      fun clock d d' r hd h => ?_) (fun temporary => ?_) fun e d hi he => .inl he
  · obtain ⟨rfl, rfl⟩ := Prod.mk.inj (Except.ok.inj h)
    exact ⟨hd.1, hd.2.1, clock, rfl⟩
  refine Spec.of_fact (F := ∃ n, temporary = temporaryPath manifest.transactionId (H.temporary n))
    (fun d hd => hd.2.2) fun ⟨n, htaken⟩ => ?_
  have htemporary : isTemporary temporary = true := htaken ▸ isTemporary_temporaryPath _ _
  refine Spec.seq (Meets (fun written d => Meets (fun _ d =>
      Beside before (workspaceTransactionManifestPath manifest.transactionId) (H.encode manifest) d)
        (fun _ _ => ¬Calm H ∨ before.get? temporary ≠ none) written d) fun _ _ => False)
    (((replaceManifest_spec hchecked htemporary).consequence (fun d hd => hd.2.1) fun r d _ h => h).attempt)
    (fun written => ?_) fun e d hi he => he.elim
  cases written with
  | ok _ => exact spec_pure (fun d hd => hd.1) fun d hd => ⟨hchecked, hd.2⟩
  | error e =>
      refine Spec.of_fact (F := ¬Calm H ∨ before.get? temporary ≠ none) (fun d hd => hd.2) fun hcause => ?_
      refine Spec.seq (Meets (fun _ _ => True) fun _ _ => False)
        ((removeTemporary_spec htemporary).consequence (fun d hd => hd.1) fun r d _ h => h)
        (fun _ => spec_lift (fun d hd => hd.1) fun d hd => hcause.imp_right fun hpresent => .inr fun hfresh => ?_)
        fun e d hi he => he.elim
      exact hpresent (htaken ▸ hfresh n)

/-- A manifest that is acknowledged is gone, or was not there. -/
theorem acknowledge_spec (id : Uuid) :
    Spec H (Between True (workspaceTransactionManifestPath id) none before) (fun d => d = before)
      (acknowledgeWorkspaceTransaction id)
      (Meets (fun _ d => Replaces (workspaceTransactionManifestPath id) none before d) fun _ _ => True) := by
  have hsame {d : Journal} (h : d = before) : Between True (workspaceTransactionManifestPath id) none before d :=
    h ▸ .inl fun _ _ => rfl
  refine Spec.seq (Meets (fun _ d => d = before) fun _ _ => True) (workspaceTransactionRoot_spec fun d hd => hsame hd)
    (fun _ => ?_) fun e d hi he => trivial
  refine Spec.seq (Meets (fun _ d => Replaces (workspaceTransactionManifestPath id) none before d) fun _ _ => True)
    (sys_spec (fun d hd => hd.1) (fun d e hd he => ?_) fun clock d d' r hd h => ?_) (fun removed => ?_)
      fun e d hi he => trivial
  · obtain ⟨-, rfl⟩ := hd
    cases e with
    | alreadyExists | failed => exact trivial
    | notFound =>
        intro name _
        rcases he with ⟨clock, he⟩ | ⟨-, he⟩
        · rw [effect] at he
          split at he
          · exact nomatch he
          · rename_i habsent
            split
            · rename_i heq
              rw [heq]
              simpa using habsent
            · rfl
        · exact absurd rfl he
  · obtain ⟨-, rfl⟩ := hd
    rw [effect] at h
    split at h
    · obtain ⟨rfl, -⟩ := Prod.mk.inj (Except.ok.inj h)
      have hgone : Replaces (workspaceTransactionManifestPath id) none d
          (d.erase (workspaceTransactionManifestPath id)) := fun name _ => OrderedMap.get?_erase ..
      exact ⟨.inr ⟨trivial, hgone⟩, hgone⟩
    · exact nomatch h
  · cases removed with
    | true =>
        refine (syncAll_spec fun d hd => hd.1).consequence (fun d hd => hd) fun r d _ h => ?_
        cases r with
        | ok _ => exact h.2
        | error e => exact trivial
    | false => exact spec_pure (fun d hd => hd.1) fun d hd => hd.2

/-- On a machine that works, a manifest that passes its checks is written. -/
theorem run_writeManifest (hcalm : Calm H) (hchecked : Checked H manifest) {world : JournalWorld}
    (hfresh : FreshTemporaries H manifest.transactionId world.journal) :
    ((writeWorkspaceTransactionManifest H manifest).run (exec H) world).2 = .ok () ∧
      Beside world.journal (workspaceTransactionManifestPath manifest.transactionId) (H.encode manifest)
        ((writeWorkspaceTransactionManifest H manifest).run (exec H) world).1.journal := by
  obtain ⟨-, hpost⟩ := (@writeManifest_spec H manifest world.journal world rfl).run
  cases hresult : ((writeWorkspaceTransactionManifest H manifest).run (exec H) world).2 with
  | ok a =>
      rw [hresult] at hpost
      exact ⟨rfl, hpost.2⟩
  | error e =>
      rw [hresult] at hpost
      rcases hpost with h | h | h
      · exact absurd hcalm h
      · exact absurd hchecked h
      · exact absurd hfresh h

/-! ## The table of manifests -/

variable {table table' : Manifests} {journal : Journal}

theorem Represents.same (h : Represents H table before) (hsame : SamePersistent before journal) :
    Represents H table journal where
  file id := (hsame _ (isTemporary_manifestPath id)).trans (h.file id)
  name name hname hpresent := h.name name hname (hsame name hname ▸ hpresent)
  checked := h.checked

/-- A change of one file is a change at one transaction. -/
theorem Represents.replace (h : Represents H table before) {id : Uuid} {content : Option WorkspaceTransactionManifest}
    (hreplaces : Replaces (workspaceTransactionManifestPath id) (content.map H.encode) before journal)
    (hcontent : ∀ manifest, content = some manifest → manifest.transactionId = id ∧ Checked H manifest) :
    Represents H (Function.update table id content) journal where
  file id' := by
    rw [hreplaces _ (isTemporary_manifestPath id'), Function.update_apply]
    simp only [manifestPath_injective.eq_iff]
    split
    · rfl
    · exact h.file id'
  name name hname hpresent := by
    rw [hreplaces name hname] at hpresent
    split at hpresent
    · rename_i heq
      exact ⟨id, heq⟩
    · exact h.name name hname hpresent
  checked id' manifest hmanifest := by
    rw [Function.update_apply] at hmanifest
    split at hmanifest
    · rename_i heq
      exact heq ▸ hcontent manifest hmanifest
    · exact h.checked id' manifest hmanifest

/-- What a crash leaves of the change of one file is a table too. -/
theorem Represents.between (h : Represents H table before) {changes : Prop} {id : Uuid}
    {content : Option WorkspaceTransactionManifest}
    (hbetween : Between changes (workspaceTransactionManifestPath id) (content.map H.encode) before journal)
    (hcontent : changes → ∀ manifest, content = some manifest → manifest.transactionId = id ∧ Checked H manifest) :
    ∃ table', (table' = table ∨ table' = Function.update table id content) ∧ Represents H table' journal := by
  rcases hbetween with hsame | ⟨hchanges, hreplaces⟩
  · exact ⟨table, .inl rfl, h.same hsame⟩
  · exact ⟨_, .inr rfl, h.replace hreplaces (hcontent hchanges)⟩

/-- A call that is cut off, or fails, leaves the file as it was or changed, and one that succeeds has changed it. -/
theorem Represents.settles {call : JournalCall} (changes : Prop) {id : Uuid}
    (content : Option WorkspaceTransactionManifest) {world world' : JournalWorld} {outcome : JournalOutcome}
    (h : Represents H table world.journal) (hran : call.Ran H world outcome world')
    (hspec : Spec H (Between changes (workspaceTransactionManifestPath id) (content.map H.encode) world.journal)
      (fun d => d = world.journal) (call.program H)
      (Meets (fun _ d => changes ∧
        Replaces (workspaceTransactionManifestPath id) (content.map H.encode) world.journal d) fun _ _ => True))
    (hcontent : changes → ∀ manifest, content = some manifest → manifest.transactionId = id ∧ Checked H manifest) :
    ∃ table', (table' = table ∧ outcome ≠ .returned true ∨ table' = Function.update table id content) ∧
      Represents H table' world'.journal := by
  have hsafe := hspec world rfl
  have hcut (hbetween : Between changes (workspaceTransactionManifestPath id) (content.map H.encode) world.journal
      world'.journal) (hfails : outcome ≠ .returned true) :
      ∃ table', (table' = table ∧ outcome ≠ .returned true ∨ table' = Function.update table id content) ∧
        Represents H table' world'.journal := by
    obtain ⟨table', htable, hrepresents⟩ := h.between hbetween hcontent
    exact ⟨table', htable.imp_left fun heq => ⟨heq, hfails⟩, hrepresents⟩
  cases outcome with
  | crashed => exact hcut (hsafe.crash hran) nofun
  | returned ok =>
      obtain ⟨hworld, hok⟩ := hran
      obtain ⟨hbetween, hpost⟩ := hsafe.run
      rw [hworld] at hbetween hpost
      cases hresult : ((call.program H).run (exec H) world).2 with
      | ok a =>
          rw [hresult] at hpost
          exact ⟨_, .inr rfl, h.replace hpost.2 (hcontent hpost.1)⟩
      | error e =>
          rw [hresult] at hok
          refine hcut hbetween fun heq => ?_
          rw [← hok] at heq
          cases heq

/-- One call, by what it is. -/
theorem Represents.call (h : Represents H table before) {first : JournalCall} {world world' : JournalWorld}
    {outcome : JournalOutcome} (hworld : world.journal = before) (hran : first.Ran H world outcome world') :
    ∃ table', Settles table first outcome table' ∧ Represents H table' world'.journal := by
  subst hworld
  cases first with
  | write manifest =>
      refine Represents.settles (Checked H manifest) (some manifest) h hran
        (writeManifest_spec.consequence (fun d hd => hd) fun r d _ hpost => ?_) ?_
      · cases r with
        | ok _ => exact ⟨hpost.1, fun name _ => hpost.2 name⟩
        | error e => exact trivial
      · rintro hchecked _ ⟨⟩
        exact ⟨rfl, hchecked⟩
  | acknowledge id =>
      refine Represents.settles True none h hran
        ((acknowledge_spec id).consequence (fun d hd => hd) fun r d _ hpost => ?_) fun _ _ hnone => nomatch hnone
      cases r with
      | ok _ => exact ⟨trivial, hpost⟩
      | error e => exact trivial

theorem Represents.calls {calls : List (JournalCall × JournalOutcome)} {world world' : JournalWorld}
    (h : Represents H table world.journal) (hran : RanAll H world calls world') :
    ∃ table', SettlesAll table calls table' ∧ Represents H table' world'.journal := by
  induction calls generalizing table world with
  | nil =>
      obtain rfl := hran
      exact ⟨table, rfl, h⟩
  | cons first calls ih =>
      obtain ⟨next, hfirst, hrest⟩ := hran
      obtain ⟨table₁, hsettles, hnext⟩ := h.call rfl hfirst
      obtain ⟨table₂, hall, hlast⟩ := ih hnext hrest
      exact ⟨table₂, ⟨table₁, hsettles, hall⟩, hlast⟩

/-- Every manifest of the table was there, or has been written. -/
theorem SettlesAll.written {calls : List (JournalCall × JournalOutcome)} (h : SettlesAll table calls table') {id : Uuid}
    (hmanifest : table' id = some manifest) :
    table id = some manifest ∨ ∃ outcome, (.write manifest, outcome) ∈ calls := by
  induction calls generalizing table with
  | nil =>
      obtain rfl := h
      exact .inl hmanifest
  | cons first calls ih =>
      obtain ⟨next, hfirst, hrest⟩ := h
      rcases ih hrest with hnext | ⟨outcome, hmem⟩
      · obtain ⟨first, outcome⟩ := first
        rcases hfirst with ⟨rfl, -⟩ | hfirst
        · exact .inl hnext
        · cases first with
          | write manifest' =>
              dsimp only at hfirst
              rw [hfirst, Function.update_apply] at hnext
              split at hnext
              · obtain rfl := Option.some.inj hnext
                exact .inr ⟨outcome, List.mem_cons_self⟩
              · exact .inl hnext
          | acknowledge id' =>
              dsimp only at hfirst
              rw [hfirst, Function.update_apply] at hnext
              split at hnext
              · cases hnext
              · exact .inl hnext
      · exact .inr ⟨outcome, List.mem_cons_of_mem _ hmem⟩

/-- **The journal is a table.** Of the calls on an empty directory, of which any may fail or be cut off by a crash, each
takes effect as a whole or not at all, and takes effect if it succeeds; what the directory holds afterwards are the
manifests of the table, and they are read back. -/
theorem journal_refines {calls : List (JournalCall × JournalOutcome)} {world world' : JournalWorld}
    (hempty : world.journal = .empty) (hran : RanAll H world calls world')
    (hreads : ∀ manifest outcome, (.write manifest, outcome) ∈ calls → H.decode (H.encode manifest) = .ok manifest) :
    ∃ table, SettlesAll (fun _ => none) calls table ∧ Represents H table world'.journal ∧
      ∀ id bytes, world'.journal.get? (workspaceTransactionManifestPath id) = some bytes →
        ∃ manifest, table id = some manifest ∧ parseManifest H bytes = .ok manifest := by
  have hstart : Represents H (fun _ => none) world.journal := by
    rw [hempty]
    exact ⟨fun _ => rfl, fun _ _ hpresent => absurd rfl hpresent, fun _ _ hmanifest => nomatch hmanifest⟩
  obtain ⟨table, hsettles, hrepresents⟩ := hstart.calls hran
  refine ⟨table, hsettles, hrepresents, fun id bytes hbytes => ?_⟩
  rw [hrepresents.file id] at hbytes
  obtain ⟨manifest, hmanifest, rfl⟩ := Option.map_eq_some_iff.mp hbytes
  obtain ⟨-, hvalid, hlength⟩ := hrepresents.checked id manifest hmanifest
  refine ⟨manifest, hmanifest, ?_⟩
  rcases hsettles.written hmanifest with hnone | ⟨outcome, hmem⟩
  · cases hnone
  · unfold parseManifest
    rw [if_neg (Nat.not_lt.mpr hlength), hreads manifest outcome hmem]
    dsimp only
    rw [hvalid]
    rfl

/-- **A manifest is written.** Where the machine works, the manifest passes its checks and its temporary name is free, the
write succeeds, and its file is all that has changed. -/
theorem writeManifest_completes (hcalm : Calm H) (manifest : WorkspaceTransactionManifest)
    (hchecked : Checked H manifest) (world : JournalWorld) (hfresh : FreshTemporaries H manifest.transactionId world.journal) :
    ∃ world', (JournalCall.write manifest).Ran H world (.returned true) world' ∧
      Beside world.journal (workspaceTransactionManifestPath manifest.transactionId) (H.encode manifest)
        world'.journal := by
  obtain ⟨hok, hbeside⟩ := run_writeManifest hcalm hchecked hfresh
  refine ⟨_, ⟨rfl, ?_⟩, hbeside⟩
  show (((writeWorkspaceTransactionManifest H manifest).run (exec H) world).2).isOk = true
  rw [hok]
  rfl

/-! ## A manifest that is written -/

/-- A new file, of which nothing is staged. -/
def newFileManifest : WorkspaceTransactionManifest where
  schemaVersion := 1
  transactionId := 5
  taskId := ⟨6⟩
  operationId := ⟨7⟩
  operationRevision := 1
  resultDigest := String.ofList (List.replicate 64 'a')
  phase := .preparing
  failureSummary := none
  members := [⟨"notes", 1, 2, workspaceStageName 5 0, none, none, String.ofList (List.replicate 64 'b'), 0o644, false,
    none, none⟩]

/-- A machine that works, for this manifest. -/
def newFileHost : JournalHost where
  fault _ := none
  temporary _ := 8
  encode _ := [123, 125]
  decode _ := .ok newFileManifest

theorem checked_newFileManifest : Checked newFileHost newFileManifest := ⟨by rfl, by decide⟩

theorem newFileManifest_written :
    ∃ world', (JournalCall.write newFileManifest).Ran newFileHost ⟨.empty, 0⟩ (.returned true) world' ∧
      Beside .empty (workspaceTransactionManifestPath newFileManifest.transactionId) (newFileHost.encode newFileManifest)
        world'.journal :=
  writeManifest_completes (fun _ => rfl) newFileManifest checked_newFileManifest ⟨.empty, 0⟩ fun _ => rfl

/-- A crash meets the call that removes the manifest. -/
theorem journal_newFileManifest : ∃ (world' : JournalWorld) (table : Manifests),
    SettlesAll (fun _ => none) [(.write newFileManifest, .returned true), (.acknowledge 5, .crashed)] table ∧
      Represents newFileHost table world'.journal ∧
      ∀ id bytes, world'.journal.get? (workspaceTransactionManifestPath id) = some bytes →
        ∃ manifest, table id = some manifest ∧ parseManifest newFileHost bytes = .ok manifest := by
  have hok := (@run_writeManifest newFileHost newFileManifest (fun _ => rfl) checked_newFileManifest ⟨.empty, 0⟩
    fun _ => rfl).1
  refine ⟨_, @journal_refines newFileHost [(.write newFileManifest, .returned true), (.acknowledge 5, .crashed)]
    ⟨.empty, 0⟩ _ rfl ⟨_, ⟨rfl, ?_⟩, _, .inl rfl, rfl⟩ ?_⟩
  · show (((writeWorkspaceTransactionManifest newFileHost newFileManifest).run (exec newFileHost) _).2).isOk = true
    rw [hok]
    rfl
  · intro manifest outcome hmem
    rcases List.mem_cons.mp hmem with h | h
    · obtain ⟨rfl, -⟩ := JournalCall.write.inj (Prod.mk.inj h).1
      rfl
    · cases (Prod.mk.inj (List.mem_singleton.mp h)).1

end HyperTerm.Daemon.WorkspaceTransaction
