import HyperTerm.Lib.CharBoundary
import HyperTerm.Sandbox.LimaRunner

/-!
# The receipt of an isolated task

The receipt that a call commits is a file of JSON, which is read again when the daemon starts.

* `receiptValue`, `encodeReceipt` : the receipt as a value, and as the bytes of its file;
* `readIsolatedTaskReceipt` : the checks of the file, and of what is read from it;
* `committedSize` : how many bytes the file has, by the sizes of what the receipt is made from;
* `receipt_reads_back_iff` : a committed receipt is read back exactly if these are no more than the reader takes.
-/

namespace HyperTerm.Sandbox.Lima
open HyperTerm.Lib HyperTerm.Protocol HyperTerm.Sandbox.Worktree

def maxReceiptBytes : Nat := 8 * 1024 * 1024

/-! ## The file -/

def kindName : IsolatedChangeKind → String
  | .added => "added"
  | .deleted => "deleted"
  | .modified => "modified"
  | .typeChanged => "type_changed"
  | .untracked => "untracked"

def terminationName : IsolatedTaskTermination → String
  | .exited => "exited"
  | .signaled => "signaled"
  | .timedOut => "timed_out"
  | .cancelled => "cancelled"

def charsValue (chars : List Char) : Value := .string (String.ofList chars)

def natValue (n : Nat) : Value := .ofU64 (Fin.ofNat (2 ^ 64) n)

def exitCodeValue : Option Int → Value
  | none => .null
  | some (.ofNat n) => natValue n
  | some (.negSucc n) => .number (.negative (Fin.ofNat (2 ^ 63) n))

def changeValue (change : IsolatedChange) : Value :=
  .object [("kind", .string (kindName change.kind)), ("path", charsValue change.path), ("bytes", natValue change.bytes),
    ("content_sha256", (change.contentSha256.map charsValue).getD .null)]

def reportValue (report : IsolatedChangeReport) : Value :=
  .object [("environment_id", .string report.environmentId), ("source_revision", .string report.sourceRevision),
    ("changed_files", .array (report.changedFiles.map changeValue)), ("changed_bytes", natValue report.changedBytes),
    ("inventory_sha256", charsValue report.inventorySha256)]

def receiptValue (receipt : IsolatedTaskReceipt) : Value :=
  .object [("schema_version", natValue receipt.schemaVersion), ("environment_id", .string receipt.environmentId),
    ("source_revision", .string receipt.sourceRevision), ("backend", .string receipt.backend),
    ("backend_version", .string receipt.backendVersion), ("image_sha256", charsValue receipt.imageSha256),
    ("command_sha256", charsValue receipt.commandSha256), ("started_at_ms", .ofU64 receipt.startedAtMs),
    ("finished_at_ms", .ofU64 receipt.finishedAtMs), ("termination", .string (terminationName receipt.termination)),
    ("exit_code", exitCodeValue receipt.exitCode), ("stdout", charsValue receipt.stdout),
    ("stderr", charsValue receipt.stderr), ("stdout_sha256", charsValue receipt.stdoutSha256),
    ("stderr_sha256", charsValue receipt.stderrSha256), ("changes", reportValue receipt.changes),
    ("cleanup_complete", .bool receipt.cleanupComplete)]

/-- `write_private_json`. -/
def encodeReceipt (receipt : IsolatedTaskReceipt) : List UInt8 := utf8 ((receiptValue receipt).pretty 0) ++ [10]

/-- A file as `symlink_metadata` and a reader see it. -/
structure ReceiptFile where
  regular : Bool
  mode : Nat
  bytes : List UInt8

def receiptFile (receipt : IsolatedTaskReceipt) : ReceiptFile := ⟨true, 0o600, encodeReceipt receipt⟩

variable (sha256 : Sha256) (decode : List UInt8 → Option IsolatedTaskReceipt) (environment : IsolatedWorktree)

/-- What is checked of a receipt besides that it can be read. -/
def ReceiptMatches (receipt : IsolatedTaskReceipt) : Prop :=
  receipt.schemaVersion = receiptSchemaVersion ∧ receipt.environmentId = environment.environmentId ∧
    receipt.sourceRevision = environment.sourceRevision ∧ receipt.backend = "lima" ∧ receipt.cleanupComplete = true ∧
    validSha256 receipt.imageSha256 = true ∧ validSha256 receipt.commandSha256 = true ∧
    validSha256 receipt.stdoutSha256 = true ∧ validSha256 receipt.stderrSha256 = true ∧
    receipt.stdoutSha256 = sha256.hex (utf8 receipt.stdout) ∧ receipt.stderrSha256 = sha256.hex (utf8 receipt.stderr) ∧
    receipt.changes.environmentId = receipt.environmentId ∧ receipt.changes.sourceRevision = receipt.sourceRevision

instance (receipt : IsolatedTaskReceipt) : Decidable (ReceiptMatches sha256 environment receipt) :=
  inferInstanceAs (Decidable (_ ∧ _))

def readIsolatedTaskReceipt (file : Option ReceiptFile) : Except LimaRunnerError IsolatedTaskReceipt := do
  let file ← okOr file .io
  if file.regular = false ∨ maxReceiptBytes < file.bytes.length then .error .invalidReceipt
  else if file.mode &&& 0o077 ≠ 0 then .error .invalidReceipt
  else
    let receipt ← okOr (decode file.bytes) .json
    if ReceiptMatches sha256 environment receipt then .ok receipt else .error .invalidReceipt

/-! ## Its size -/

/-- The bytes of an output in the receipt, which is decoded with losses and escaped. -/
def textSize (output : List UInt8) : Nat := jsonStringSize (String.ofList (fromUtf8Lossy output))

/-- What the names, the brackets, the line breaks and the four digests take, and the values that are always the same. -/
def framingSize : Nat := 613

/-- The size of the file, by what the receipt is made from. -/
def committedSize (runner : LimaTaskRunner) (environment : IsolatedWorktree) (ending : Ending) (stdout stderr : List UInt8)
    (changes : IsolatedChangeReport) (startedAt finishedAt : Nat) : Nat :=
  framingSize + jsonStringSize environment.environmentId + jsonStringSize environment.sourceRevision +
    jsonStringSize runner.backendVersion + decimalSize (startedAt % 2 ^ 64) + decimalSize (finishedAt % 2 ^ 64) +
    jsonStringSize (terminationName ending.termination) + (exitCodeValue ending.code).prettySize 1 + textSize stdout +
    textSize stderr + (reportValue changes).prettySize 1

theorem escapedSize_hex {c : Char} (h : isHexLower c = true) : escapedSize c = 1 := by
  have hrange : (48 ≤ c.toNat ∧ c.toNat ≤ 57) ∨ (97 ≤ c.toNat ∧ c.toNat ≤ 102) := by
    simpa only [isHexLower, decide_eq_true_eq] using h
  have hquote : ¬(c = '"' ∨ c = '\\') := by
    rintro (rfl | rfl) <;> exact absurd hrange (by decide)
  have hshort : c.toNat ∉ [8, 9, 10, 12, 13] := by
    simp only [List.mem_cons, List.not_mem_nil, or_false]
    omega
  unfold escapedSize
  rw [if_neg hquote, if_neg hshort, if_neg (by omega)]
  have hutf8 : (utf8 [c]).length = 1 := length_utf8_of_ascii fun d hd => by
    rw [List.mem_singleton.1 hd]
    omega
  rwa [length_utf8_cons, show (utf8 []).length = 0 from rfl, Nat.add_zero] at hutf8

theorem jsonStringSize_sha256 {digest : List Char} (h : validSha256 digest = true) :
    jsonStringSize (String.ofList digest) = 66 := by
  obtain ⟨hlength, hdigits⟩ : digest.length = 64 ∧ digest.all isHexLower := by
    simpa only [validSha256, decide_eq_true_eq] using h
  have hones : digest.map escapedSize = List.replicate 64 1 := by
    rw [List.eq_replicate_iff, List.length_map]
    refine ⟨hlength, fun size hsize => ?_⟩
    obtain ⟨c, hc, rfl⟩ := List.mem_map.1 hsize
    exact escapedSize_hex (List.all_eq_true.1 hdigits c hc)
  rw [jsonStringSize, String.toList_ofList, hones]
  rfl

theorem validSha256_hex (bytes : List UInt8) : validSha256 (sha256.hex bytes) = true := by
  unfold validSha256
  refine decide_eq_true ⟨?_, List.all_eq_true.2 (isHexLower_encodeHex _)⟩
  rw [Sha256.hex, length_encodeHex, sha256.length_digest]

/-- The bytes of a file, by the sizes of its values. -/
theorem length_encodeReceipt {receipt : IsolatedTaskReceipt} (h : ReceiptMatches sha256 environment receipt) :
    (encodeReceipt receipt).length =
      framingSize + jsonStringSize receipt.environmentId + jsonStringSize receipt.sourceRevision +
        jsonStringSize receipt.backendVersion + decimalSize receipt.startedAtMs + decimalSize receipt.finishedAtMs +
        jsonStringSize (terminationName receipt.termination) + (exitCodeValue receipt.exitCode).prettySize 1 +
        jsonStringSize (String.ofList receipt.stdout) + jsonStringSize (String.ofList receipt.stderr) +
        (reportValue receipt.changes).prettySize 1 := by
  obtain ⟨hschema, -, -, hbackend, hcomplete, himage, hcommand, hstdout, hstderr, -⟩ := h
  have hkeys : jsonStringSize "schema_version" = 16 ∧ jsonStringSize "environment_id" = 16 ∧
      jsonStringSize "source_revision" = 17 ∧ jsonStringSize "backend" = 9 ∧ jsonStringSize "backend_version" = 17 ∧
      jsonStringSize "image_sha256" = 14 ∧ jsonStringSize "command_sha256" = 16 ∧ jsonStringSize "started_at_ms" = 15 ∧
      jsonStringSize "finished_at_ms" = 16 ∧ jsonStringSize "termination" = 13 ∧ jsonStringSize "exit_code" = 11 ∧
      jsonStringSize "stdout" = 8 ∧ jsonStringSize "stderr" = 8 ∧ jsonStringSize "stdout_sha256" = 15 ∧
      jsonStringSize "stderr_sha256" = 15 ∧ jsonStringSize "changes" = 9 ∧ jsonStringSize "cleanup_complete" = 18 ∧
      jsonStringSize "lima" = 6 ∧ (natValue receiptSchemaVersion).prettySize 1 = 1 := by decide
  rw [encodeReceipt, List.length_append, Value.length_utf8_pretty]
  simp only [receiptValue, Value.prettySize, membersPrettySize, charsValue, hschema, hbackend, hcomplete, hkeys,
    jsonStringSize_sha256 himage, jsonStringSize_sha256 hcommand, jsonStringSize_sha256 hstdout,
    jsonStringSize_sha256 hstderr, Value.ofU64, Number.size, List.length_cons, List.length_nil,
    framingSize, Nat.zero_add, if_true]
  omega

/-! ## The receipt of a call -/

variable {sha256 decode environment} {environmentRoot : String} {runner : LimaTaskRunner} {argv : List String} {steps : Steps}
  {s s' : LimaState} {receipt : IsolatedTaskReceipt}

theorem finish_eq_ok {task : Except LimaRunnerError IsolatedTaskReceipt} {cleanup : Except LimaRunnerError Unit}
    (h : LimaTaskRunner.finish steps task cleanup s = (.ok receipt, s')) :
    task = .ok receipt ∧ s'.receipt = some receipt := by
  unfold LimaTaskRunner.finish at h
  cases cleanup with
  | error error => cases h
  | ok =>
      cases hremove : steps.removeHome with
      | error error =>
          rw [hremove] at h
          cases h
      | ok =>
          rw [hremove] at h
          cases task with
          | error error => cases h
          | ok receipt' =>
              cases hwrite : steps.writeReceipt with
              | error error =>
                  rw [hwrite] at h
                  cases h
              | ok =>
                  rw [hwrite] at h
                  cases h
                  exact ⟨rfl, rfl⟩

theorem task_eq_ok {startedAt : Nat} {vm : Bool}
    (h : (runner.task sha256 environmentRoot environment argv steps startedAt vm).1 = .ok receipt) :
    runner.taskReceipt sha256 environment argv steps startedAt = .ok receipt := by
  unfold LimaTaskRunner.task at h
  cases hvalidate : LimaTaskRunner.validateCommand environmentRoot steps with
  | error error =>
      rw [hvalidate] at h
      cases h
  | ok =>
      rw [hvalidate] at h
      cases hstart : LimaTaskRunner.startCommand sha256 environmentRoot environment runner steps with
      | error error =>
          rw [hstart] at h
          cases h
      | ok =>
          rw [hstart] at h
          exact h

/-- A call that returns a receipt has committed it, and it is the receipt of the task. -/
theorem run_eq_ok (h : runner.run sha256 environmentRoot environment argv steps s = (.ok receipt, s')) :
    s'.receipt = some receipt ∧ ∃ startedAt, steps.startedAt = .ok startedAt ∧
      runner.taskReceipt sha256 environment argv steps startedAt = .ok receipt := by
  unfold LimaTaskRunner.run at h
  rcases hprepare : LimaTaskRunner.prepare argv steps s.home with ⟨_ | _, home⟩
  · rw [hprepare] at h
    cases h
  · rw [hprepare] at h
    cases hclock : steps.startedAt with
    | error error =>
        rw [hclock] at h
        cases h
    | ok startedAt =>
        rw [hclock] at h
        obtain ⟨htask, hcommitted⟩ := finish_eq_ok h
        refine ⟨hcommitted, startedAt, rfl, ?_⟩
        exact task_eq_ok htask

/-- What a receipt is made from. -/
theorem taskReceipt_eq_ok {startedAt : Nat} (h : runner.taskReceipt sha256 environment argv steps startedAt = .ok receipt) :
    ∃ ending stdout stderr tracked untracked changes finishedAt, steps.shell = .ended ending stdout stderr ∧
      steps.gitOutputs = .ok (tracked, untracked) ∧ buildChangeReport sha256 environment tracked untracked = .ok changes ∧
      steps.finishedAt = .ok finishedAt ∧
      receipt = runner.receiptOf sha256 environment argv startedAt ⟨ending, fromUtf8Lossy stdout, fromUtf8Lossy stderr⟩
        changes finishedAt := by
  unfold LimaTaskRunner.taskReceipt at h
  rw [bind_eq_ok] at h
  obtain ⟨execution, hexecution, h⟩ := h
  rw [bind_eq_ok] at h
  obtain ⟨⟨tracked, untracked⟩, hgit, h⟩ := h
  rw [bind_eq_ok] at h
  obtain ⟨changes, hchanges, h⟩ := h
  rw [bind_eq_ok] at h
  obtain ⟨finishedAt, hfinished, h⟩ := h
  cases hshell : steps.shell with
  | ioFailed =>
      rw [hshell] at hexecution
      cases hexecution
  | readerFailed =>
      rw [hshell] at hexecution
      cases hexecution
  | ended ending stdout stderr =>
      rw [hshell, runBounded, ite_error_eq_ok] at hexecution
      obtain rfl := Except.ok.inj hexecution.2
      exact ⟨ending, stdout, stderr, tracked, untracked, changes, finishedAt, rfl, hgit, mapError_eq_ok.1 hchanges, hfinished,
        (Except.ok.inj h).symm⟩

theorem receiptMatches_receiptOf {startedAt finishedAt : Nat} {execution : Execution} {changes : IsolatedChangeReport}
    (hid : changes.environmentId = environment.environmentId) (hrevision : changes.sourceRevision = environment.sourceRevision) :
    ReceiptMatches sha256 environment (runner.receiptOf sha256 environment argv startedAt execution changes finishedAt) := by
  have hvalid := runner.valid
  unfold validateConfig at hvalid
  rw [ite_error_eq_ok] at hvalid
  have himage : validSha256 runner.config.image.sha256 = true := by
    by_contra hbad
    exact hvalid.1 (by simp only [hbad, Bool.false_eq_true, not_false_eq_true, or_true])
  exact ⟨rfl, rfl, rfl, rfl, rfl, himage, validSha256_hex _ _, validSha256_hex _ _, validSha256_hex _ _, rfl, rfl, hid, hrevision⟩

theorem readIsolatedTaskReceipt_eq_ok (hdecode : decode (encodeReceipt receipt) = some receipt)
    (hmatches : ReceiptMatches sha256 environment receipt) :
    readIsolatedTaskReceipt sha256 decode environment (some (receiptFile receipt)) = .ok receipt ↔
      (encodeReceipt receipt).length ≤ maxReceiptBytes := by
  unfold readIsolatedTaskReceipt
  dsimp only [okOr, receiptFile, bind, Except.bind]
  by_cases hlarge : maxReceiptBytes < (encodeReceipt receipt).length
  · rw [if_pos (Or.inr hlarge)]
    exact iff_of_false (by intro h; cases h) (Nat.not_le.2 hlarge)
  · rw [if_neg (not_or.2 ⟨by decide, hlarge⟩), if_neg (by decide), hdecode]
    dsimp only
    rw [if_pos hmatches]
    exact iff_of_true rfl (Nat.not_lt.1 hlarge)

/-- **Main result.** The receipt that a call commits is read back exactly if what it is made from takes no more bytes, decoded
with losses and escaped, than the reader takes. -/
theorem receipt_reads_back_iff {ending : Ending} {stdout stderr tracked untracked : List UInt8}
    {changes : IsolatedChangeReport} {startedAt finishedAt : Nat}
    (hrun : runner.run sha256 environmentRoot environment argv steps s = (.ok receipt, s'))
    (hstarted : steps.startedAt = .ok startedAt) (hshell : steps.shell = .ended ending stdout stderr)
    (hgit : steps.gitOutputs = .ok (tracked, untracked))
    (hchanges : buildChangeReport sha256 environment tracked untracked = .ok changes)
    (hfinished : steps.finishedAt = .ok finishedAt) (hdecode : decode (encodeReceipt receipt) = some receipt) :
    readIsolatedTaskReceipt sha256 decode environment (s'.receipt.map receiptFile) = .ok receipt ↔
      committedSize runner environment ending stdout stderr changes startedAt finishedAt ≤ 8 * 1024 * 1024 := by
  obtain ⟨hcommitted, startedAt', hstarted', htask⟩ := run_eq_ok hrun
  obtain rfl := Except.ok.inj (hstarted.symm.trans hstarted')
  obtain ⟨ending', stdout', stderr', tracked', untracked', changes', finishedAt', hshell', hgit', hchanges', hfinished', rfl⟩ :=
    taskReceipt_eq_ok htask
  obtain ⟨rfl, rfl, rfl⟩ := ProcessRun.ended.inj (hshell.symm.trans hshell')
  obtain ⟨rfl, rfl⟩ := Prod.mk.inj (Except.ok.inj (hgit.symm.trans hgit'))
  obtain rfl := Except.ok.inj (hchanges.symm.trans hchanges')
  obtain rfl := Except.ok.inj (hfinished.symm.trans hfinished')
  obtain ⟨hid, hrevision, -⟩ := buildChangeReport_eq_ok hchanges
  have hmatches := @receiptMatches_receiptOf sha256 environment runner argv startedAt finishedAt
    ⟨ending, fromUtf8Lossy stdout, fromUtf8Lossy stderr⟩ changes hid hrevision
  rw [hcommitted, Option.map_some, readIsolatedTaskReceipt_eq_ok hdecode hmatches, length_encodeReceipt _ _ hmatches]
  rfl

/-! ## Two mebibytes of zero bytes -/

theorem textSize_zeros (n : Nat) : textSize (List.replicate n 0) = 2 + 6 * n := by
  have hzero : fromUtf8Lossy (List.replicate n 0) = List.replicate n (Char.ofNat 0) := by
    rw [fromUtf8Lossy_ascii, List.map_replicate]
    · rfl
    · intro byte hbyte
      rw [(List.mem_replicate.1 hbyte).2]
      decide
  rw [textSize, hzero, jsonStringSize, String.toList_ofList, List.map_replicate, List.sum_replicate_nat]
  show 2 + n * 6 = _
  omega

/-- A task that writes to its standard output, and changes nothing. -/
def printingSteps (stdout : List UInt8) : Steps where
  createRoot := .ok ()
  createHome := .ok ()
  stageImage := .ok ()
  writeConfig := .ok ()
  startedAt := .ok 1000
  validate := succeeded
  start := succeeded
  startCreates := true
  shell := .ended (.exit 0) stdout []
  gitOutputs := .ok ([], [])
  finishedAt := .ok 2000
  stop := succeeded
  delete := succeeded
  deleteLeaves := false
  removeHome := .ok ()
  writeReceipt := .ok ()
  delete_gone := fun _ => rfl

def emptyReport : IsolatedChangeReport where
  environmentId := "review-1"
  sourceRevision := "0123456789abcdef0123456789abcdef01234567"
  changedFiles := []
  changedBytes := 0
  inventorySha256 := sampleSha256.hex []

def printedReceipt (stdout : List UInt8) : IsolatedTaskReceipt :=
  sampleRunner.receiptOf sampleSha256 (sampleWorktree .other) ["true"] 1000 ⟨.exit 0, fromUtf8Lossy stdout, []⟩ emptyReport 2000

theorem buildChangeReport_empty : buildChangeReport sampleSha256 (sampleWorktree .other) [] [] = .ok emptyReport := by
  decide

theorem taskReceipt_printing {stdout : List UInt8} (h : stdout.length ≤ 2 * 1024 * 1024) :
    sampleRunner.taskReceipt sampleSha256 (sampleWorktree .other) ["true"] (printingSteps stdout) 1000 =
      .ok (printedReceipt stdout) := by
  have hexecution : runBounded sampleRunner.config.maxOutputBytes (printingSteps stdout).shell =
      .ok ⟨.exit 0, fromUtf8Lossy stdout, []⟩ := by
    show (if 2 * 1024 * 1024 < stdout.length ∨ 2 * 1024 * 1024 < ([] : List UInt8).length then _ else _) = _
    rw [if_neg (not_or.2 ⟨Nat.not_lt.2 h, by decide⟩)]
    rfl
  have hgit : (printingSteps stdout).gitOutputs = .ok ([], []) := rfl
  unfold LimaTaskRunner.taskReceipt
  rw [hexecution, hgit]
  dsimp only [bind, Except.bind]
  rw [buildChangeReport_empty]
  rfl

theorem run_printing {stdout : List UInt8} (h : stdout.length ≤ 2 * 1024 * 1024) :
    sampleRunner.run sampleSha256 "/state/review-1" (sampleWorktree .other) ["true"] (printingSteps stdout)
      ⟨false, false, none⟩ = (.ok (printedReceipt stdout), ⟨false, false, some (printedReceipt stdout)⟩) := by
  have hprepare : LimaTaskRunner.prepare ["true"] (printingSteps stdout) false = (.ok (), true) :=
    LimaTaskRunner.prepare_eq_ok.2 ⟨by decide, rfl, rfl, rfl, rfl, rfl, rfl⟩
  have hcontrol (arguments : List String) : controlOwned arguments succeeded = .ok () := controlOwned_eq_ok.2 (by decide)
  have htask : sampleRunner.task sampleSha256 "/state/review-1" (sampleWorktree .other) ["true"] (printingSteps stdout) 1000
      false = (.ok (printedReceipt stdout), true, true) := by
    unfold LimaTaskRunner.task LimaTaskRunner.validateCommand LimaTaskRunner.startCommand
    rw [show (printingSteps stdout).validate = succeeded from rfl, show (printingSteps stdout).start = succeeded from rfl,
      hcontrol, hcontrol, taskReceipt_printing h]
    rfl
  have hcleanup : LimaTaskRunner.cleanup sampleSha256 (sampleWorktree .other) (printingSteps stdout) true true =
      (.ok (), false) := by
    unfold LimaTaskRunner.cleanup LimaTaskRunner.deleteInstance
    rw [show (printingSteps stdout).stop = succeeded from rfl, show (printingSteps stdout).delete = succeeded from rfl,
      hcontrol, hcontrol]
    rfl
  have hstarted : (printingSteps stdout).startedAt = .ok 1000 := rfl
  unfold LimaTaskRunner.run
  rw [hprepare]
  dsimp only
  rw [hstarted]
  dsimp only
  rw [htask]
  dsimp only
  rw [hcleanup]
  rfl

/-- A task that prints nothing: its receipt is read back. -/
theorem receipt_reads_back_silent :
    readIsolatedTaskReceipt sampleSha256 (fun bytes => if bytes = encodeReceipt (printedReceipt []) then
        some (printedReceipt []) else none) (sampleWorktree .other)
      ((some (printedReceipt [])).map receiptFile) = .ok (printedReceipt []) :=
  (receipt_reads_back_iff (@run_printing [] (by decide)) rfl rfl rfl buildChangeReport_empty rfl (if_pos rfl)).2
    (by decide)

/-- A task may print what the runner takes, and more than the reader takes when it is escaped. -/
theorem zeros_not_read_back :
    ¬∀ (sha256 : Sha256) (decode : List UInt8 → Option IsolatedTaskReceipt) (environmentRoot : String)
      (environment : IsolatedWorktree) (runner : LimaTaskRunner) (argv : List String) (steps : Steps) (s s' : LimaState)
      (receipt : IsolatedTaskReceipt),
        runner.run sha256 environmentRoot environment argv steps s = (.ok receipt, s') →
        decode (encodeReceipt receipt) = some receipt →
        readIsolatedTaskReceipt sha256 decode environment (s'.receipt.map receiptFile) = .ok receipt := by
  intro hclaim
  have hrun := @run_printing (List.replicate (2 * 1024 * 1024) 0) (by rw [List.length_replicate])
  have hread := hclaim _ (fun _ => some (printedReceipt (List.replicate (2 * 1024 * 1024) 0))) _ _ _ _ _ _ _ _ hrun rfl
  have hmatches : ReceiptMatches sampleSha256 (sampleWorktree .other)
      (printedReceipt (List.replicate (2 * 1024 * 1024) 0)) := receiptMatches_receiptOf rfl rfl
  have hlength := (readIsolatedTaskReceipt_eq_ok rfl hmatches).1 hread
  rw [length_encodeReceipt _ _ hmatches] at hlength
  have hzeros : jsonStringSize (String.ofList (printedReceipt (List.replicate (2 * 1024 * 1024) 0)).stdout) =
      2 + 6 * (2 * 1024 * 1024) := textSize_zeros _
  rw [hzeros, maxReceiptBytes] at hlength
  omega

end HyperTerm.Sandbox.Lima
