import HyperTerm.Protocol.PrettyJson
import HyperTerm.Sandbox.ChangeReport
import Mathlib.Algebra.Group.Nat.Defs

/-!
# Isolated tasks in a virtual machine

A task runs in an instance of its own, below a private home that exists for this task only. When it has ended the instance
is deleted, then the home, and then the receipt of the task is written.

* `ProcessRun`, `runBounded`, `controlOwned` : how a command goes, and what the runner takes it for;
* `Steps` : how everything outside of the runner goes in one call;
* `LimaTaskRunner.run` : the call, on the home, the instance and the receipt;
* `FailsClosed`, `Orphans` : an instance is left only to a later recovery, and when it is not;
* `run_failsClosed_iff` : the one is the case exactly if the other is not;
* `recover`, `recover_of_failsClosed` : the recovery, and what it finds after a call.
-/

namespace HyperTerm.Sandbox.Lima
open HyperTerm.Lib HyperTerm.Protocol HyperTerm.Sandbox.Worktree

def receiptSchemaVersion : Nat := 1
def maxArguments : Nat := 256
def maxArgumentBytes : Nat := 64 * 1024
def minOutputBytes : Nat := 4 * 1024
def maxOutputBytes : Nat := 16 * 1024 * 1024
def maxControlBytes : Nat := 256 * 1024

inductive IsolatedTaskTermination where
  | exited
  | signaled
  | timedOut
  | cancelled
  deriving DecidableEq

structure LimaImage where
  path : String
  sha256 : List Char
  arch : String

/-- The timeouts are in nanoseconds. -/
structure LimaRunnerConfig where
  image : LimaImage
  vmType : String
  cpus : Nat
  memoryMib : Nat
  diskGib : Nat
  startTimeout : Nat
  taskTimeout : Nat
  maxOutputBytes : Nat

def LimaRunnerConfig.macosVz (image : LimaImage) : LimaRunnerConfig where
  image := image
  vmType := "vz"
  cpus := 2
  memoryMib := 2048
  diskGib := 8
  startTimeout := 5 * 60 * 10 ^ 9
  taskTimeout := 10 * 60 * 10 ^ 9
  maxOutputBytes := 2 * 1024 * 1024

inductive LimaRunnerError where
  | limaUnavailable
  | invalidConfig
  | invalidCommand
  | imageTooLarge
  | imageDigestMismatch
  | invalidReceipt
  | insecureLimaHome
  | controlFailed (command : String) (status : Option Int) (stderr : List Char)
  | outputTooLarge
  | readerFailed
  | invalidClock
  | worktree (error : ChangeError)
  | json
  | io
  deriving DecidableEq

structure IsolatedTaskReceipt where
  schemaVersion : Nat
  environmentId : String
  sourceRevision : String
  backend : String
  backendVersion : String
  imageSha256 : List Char
  commandSha256 : List Char
  startedAtMs : Fin (2 ^ 64)
  finishedAtMs : Fin (2 ^ 64)
  termination : IsolatedTaskTermination
  exitCode : Option Int
  stdout : List Char
  stderr : List Char
  stdoutSha256 : List Char
  stderrSha256 : List Char
  changes : IsolatedChangeReport
  cleanupComplete : Bool
  deriving DecidableEq

/-! ## Processes -/

/-- How `run_bounded` stops waiting: with the code of the process or for a signal, at its timeout, or when it is told to. -/
inductive Ending where
  | exit (code : Int)
  | signal
  | timedOut (code : Option Int)
  | cancelled (code : Option Int)
  deriving DecidableEq

def Ending.termination : Ending → IsolatedTaskTermination
  | .exit _ => .exited
  | .signal => .signaled
  | .timedOut _ => .timedOut
  | .cancelled _ => .cancelled

/-- The code of the status, where there is one. -/
def Ending.code : Ending → Option Int
  | .exit code => some code
  | .signal => none
  | .timedOut code => code
  | .cancelled code => code

/-- A process that cannot be started, waited for, or read from, or one that ends with what it has written. -/
inductive ProcessRun where
  | ioFailed
  | readerFailed
  | ended (ending : Ending) (stdout stderr : List UInt8)
  deriving DecidableEq

structure Execution where
  ending : Ending
  stdout : List Char
  stderr : List Char

/-- A reader that meets more than the limit has the process ended, and the result is refused. -/
def runBounded (outputLimit : Nat) : ProcessRun → Except LimaRunnerError Execution
  | .ioFailed => .error .io
  | .readerFailed => .error .readerFailed
  | .ended ending stdout stderr =>
      if outputLimit < stdout.length ∨ outputLimit < stderr.length then .error .outputTooLarge
      else .ok ⟨ending, fromUtf8Lossy stdout, fromUtf8Lossy stderr⟩

def controlOwned (arguments : List String) (run : ProcessRun) : Except LimaRunnerError Unit := do
  let result ← runBounded maxControlBytes run
  if result.ending.termination ≠ .exited ∨ result.ending.code ≠ some 0 then
    .error (.controlFailed (arguments.head?.getD "") result.ending.code result.stderr)
  else .ok ()

/-- The command exits with success, and writes no more than is read. -/
def ProcessRun.succeeds : ProcessRun → Bool
  | .ended (.exit code) stdout stderr =>
      code = 0 ∧ stdout.length ≤ maxControlBytes ∧ stderr.length ≤ maxControlBytes
  | _ => false

/-- The command ends in another way, be it by a signal or at its timeout, and writes no more than is read. -/
def ProcessRun.refused : ProcessRun → Bool
  | .ended ending stdout stderr =>
      ending ≠ .exit 0 ∧ stdout.length ≤ maxControlBytes ∧ stderr.length ≤ maxControlBytes
  | _ => false

/-! ## The runner -/

def validSha256 (value : List Char) : Bool := value.length = 64 ∧ value.all isHexLower

def validateConfig (config : LimaRunnerConfig) : Except LimaRunnerError Unit :=
  if config.vmType ≠ "vz" ∨ config.image.arch ∉ ["aarch64", "x86_64"] ∨ config.cpus = 0 ∨ 8 < config.cpus ∨
      config.memoryMib < 512 ∨ 16384 < config.memoryMib ∨ config.diskGib < 2 ∨ 128 < config.diskGib ∨
      config.startTimeout = 0 ∨ config.taskTimeout = 0 ∨ config.maxOutputBytes < minOutputBytes ∨
      maxOutputBytes < config.maxOutputBytes ∨ ¬validSha256 config.image.sha256 then
    .error .invalidConfig
  else .ok ()

/-- A runner is made from a configuration that is accepted. -/
structure LimaTaskRunner where
  backendVersion : String
  config : LimaRunnerConfig
  valid : validateConfig config = .ok ()

def validateRequest (argv : List String) : Except LimaRunnerError Unit :=
  if argv = [] ∨ maxArguments < argv.length ∨
      (∃ value ∈ argv, value = "" ∨ '\x00' ∈ value.toList ∨ maxArgumentBytes < value.utf8ByteSize) ∨
      maxArgumentBytes < (argv.map String.utf8ByteSize).sum then
    .error .invalidCommand
  else .ok ()

/-- How everything outside of the runner goes in one call, and whether the instance is there afterwards: a `start` of any
outcome may have created it, a `delete` of any outcome but success may have left it. -/
structure Steps where
  createRoot : Except LimaRunnerError Unit
  createHome : Except LimaRunnerError Unit
  stageImage : Except LimaRunnerError Unit
  writeConfig : Except LimaRunnerError Unit
  startedAt : Except LimaRunnerError Nat
  validate : ProcessRun
  start : ProcessRun
  startCreates : Bool
  shell : ProcessRun
  gitOutputs : Except LimaRunnerError (List UInt8 × List UInt8)
  finishedAt : Except LimaRunnerError Nat
  stop : ProcessRun
  delete : ProcessRun
  deleteLeaves : Bool
  removeHome : Except LimaRunnerError Unit
  writeReceipt : Except LimaRunnerError Unit
  delete_gone : delete.succeeds = true → deleteLeaves = false

/-- The private home, the instance, and the file of the receipt. -/
structure LimaState where
  home : Bool
  vm : Bool
  receipt : Option IsolatedTaskReceipt

variable (sha256 : Sha256) (environmentRoot : String) (environment : IsolatedWorktree)

def instanceName : String := "ht-" ++ String.ofList ((sha256.hex (utf8 environment.environmentId.toList)).take 12)

def commandDigest (argv : List String) : List Char :=
  sha256.hex (utf8 "hyper-term-isolated-command-v1\x00".toList ++ argv.flatMap fun argument =>
    (beBytes 8 argument.utf8ByteSize).reverse ++ utf8 argument.toList)

def configPath : String := environmentRoot ++ "/lima.yaml"

namespace LimaTaskRunner

variable (runner : LimaTaskRunner) (argv : List String) (steps : Steps)

def validateCommand : Except LimaRunnerError Unit :=
  controlOwned ["--tty=false", "validate", configPath environmentRoot] steps.validate

def startCommand : Except LimaRunnerError Unit :=
  controlOwned ["--tty=false", "start", "--name", instanceName sha256 environment, "--timeout",
    toString (max (runner.config.startTimeout / 10 ^ 9) 1) ++ "s", configPath environmentRoot] steps.start

/-- The receipt that the closure of `run` builds. -/
def receiptOf (startedAt : Nat) (execution : Execution) (changes : IsolatedChangeReport) (finishedAt : Nat) :
    IsolatedTaskReceipt where
  schemaVersion := receiptSchemaVersion
  environmentId := environment.environmentId
  sourceRevision := environment.sourceRevision
  backend := "lima"
  backendVersion := runner.backendVersion
  imageSha256 := runner.config.image.sha256
  commandSha256 := commandDigest sha256 argv
  startedAtMs := Fin.ofNat (2 ^ 64) startedAt
  finishedAtMs := Fin.ofNat (2 ^ 64) finishedAt
  termination := execution.ending.termination
  exitCode := execution.ending.code
  stdout := execution.stdout
  stderr := execution.stderr
  stdoutSha256 := sha256.hex (utf8 execution.stdout)
  stderrSha256 := sha256.hex (utf8 execution.stderr)
  changes := changes
  cleanupComplete := true

/-- `execute_task`, `inspect_changes` and the receipt of both, once the instance is started. -/
def taskReceipt (startedAt : Nat) : Except LimaRunnerError IsolatedTaskReceipt := do
  let execution ← runBounded runner.config.maxOutputBytes steps.shell
  let (tracked, untracked) ← steps.gitOutputs
  let changes ← (buildChangeReport sha256 environment tracked untracked).mapError LimaRunnerError.worktree
  let finishedAt ← steps.finishedAt
  return runner.receiptOf sha256 environment argv startedAt execution changes finishedAt

/-- The closure of `run`: its result, whether `start` has succeeded, and whether there is an instance. -/
def task (startedAt : Nat) (vm : Bool) : Except LimaRunnerError IsolatedTaskReceipt × Bool × Bool :=
  match validateCommand environmentRoot steps with
  | .error error => (.error error, false, vm)
  | .ok () =>
      match startCommand sha256 environmentRoot environment runner steps with
      | .error error => (.error error, false, vm || steps.startCreates)
      | .ok () => (runner.taskReceipt sha256 environment argv steps startedAt, true, vm || steps.startCreates)

/-- `delete`, and whether the instance is there afterwards. -/
def deleteInstance (vm : Bool) : Except LimaRunnerError Unit × Bool :=
  (controlOwned ["--tty=false", "delete", "--force", instanceName sha256 environment] steps.delete,
    vm && steps.deleteLeaves)

def isControlFailed : Except LimaRunnerError Unit → Bool
  | .error (.controlFailed _ _ _) => true
  | _ => false

def cleanup (started vm : Bool) : Except LimaRunnerError Unit × Bool :=
  if started then
    match controlOwned ["--tty=false", "stop", "--force", instanceName sha256 environment] steps.stop with
    | .error error => (.error error, vm)
    | .ok () => deleteInstance sha256 environment steps vm
  else
    let (result, vm) := deleteInstance sha256 environment steps vm
    if isControlFailed result then (.ok (), vm) else (result, vm)

/-- What comes before the first command. A home that exists is not taken over. -/
def prepare (home : Bool) : Except LimaRunnerError Unit × Bool :=
  match validateRequest argv with
  | .error error => (.error error, home)
  | .ok () =>
      match steps.createRoot with
      | .error error => (.error error, home)
      | .ok () =>
          if home then (.error .io, home)
          else
            match steps.createHome with
            | .error error => (.error error, home)
            | .ok () => (steps.stageImage.bind fun _ => steps.writeConfig, true)

/-- `run` after the task: the home goes if the cleanup has succeeded, and then the receipt is written. -/
def finish (task : Except LimaRunnerError IsolatedTaskReceipt) (cleanup : Except LimaRunnerError Unit) (s : LimaState) :
    Except LimaRunnerError IsolatedTaskReceipt × LimaState :=
  match cleanup with
  | .error error => (.error error, s)
  | .ok () =>
      match steps.removeHome with
      | .error error => (.error error, s)
      | .ok () =>
          match task with
          | .error error => (.error error, { s with home := false })
          | .ok receipt =>
              match steps.writeReceipt with
              | .error error => (.error error, { s with home := false })
              | .ok () => (.ok receipt, { s with home := false, receipt := some receipt })

def run (s : LimaState) : Except LimaRunnerError IsolatedTaskReceipt × LimaState :=
  match prepare argv steps s.home with
  | (.error error, home) => (.error error, { s with home })
  | (.ok (), home) =>
      match steps.startedAt with
      | .error error => (.error error, { s with home })
      | .ok startedAt =>
          let (task, started, vm) := runner.task sha256 environmentRoot environment argv steps startedAt s.vm
          let (cleanup, vm) := cleanup sha256 environment steps started vm
          finish steps task cleanup { s with home, vm }

end LimaTaskRunner

/-! ## Commands -/

theorem Ending.failed_iff (ending : Ending) :
    (ending.termination ≠ .exited ∨ ending.code ≠ some 0) ↔ ending ≠ .exit 0 := by
  cases ending with
  | exit code => simp [Ending.termination, Ending.code]
  | signal => simp [Ending.termination]
  | timedOut code => simp [Ending.termination]
  | cancelled code => simp [Ending.termination]

theorem controlOwned_ended (arguments : List String) (ending : Ending) (stdout stderr : List UInt8) :
    controlOwned arguments (.ended ending stdout stderr) =
      if maxControlBytes < stdout.length ∨ maxControlBytes < stderr.length then .error .outputTooLarge
      else if ending = .exit 0 then .ok ()
      else .error (.controlFailed (arguments.head?.getD "") ending.code (fromUtf8Lossy stderr)) := by
  rw [controlOwned, runBounded]
  by_cases hlarge : maxControlBytes < stdout.length ∨ maxControlBytes < stderr.length
  · rw [if_pos hlarge, if_pos hlarge]
    rfl
  · rw [if_neg hlarge, if_neg hlarge]
    by_cases hexit : ending = .exit 0
    · rw [if_pos hexit]
      exact if_neg fun hfailed => (ending.failed_iff.1 hfailed) hexit
    · rw [if_neg hexit]
      exact if_pos (ending.failed_iff.2 hexit)

theorem succeeds_ended {ending : Ending} {stdout stderr : List UInt8} :
    (ProcessRun.ended ending stdout stderr).succeeds = true ↔
      ending = .exit 0 ∧ ¬(maxControlBytes < stdout.length ∨ maxControlBytes < stderr.length) := by
  rw [not_or, Nat.not_lt, Nat.not_lt]
  cases ending with
  | exit code => simp [ProcessRun.succeeds]
  | signal => simp [ProcessRun.succeeds]
  | timedOut code => simp [ProcessRun.succeeds]
  | cancelled code => simp [ProcessRun.succeeds]

theorem refused_ended {ending : Ending} {stdout stderr : List UInt8} :
    (ProcessRun.ended ending stdout stderr).refused = true ↔
      ending ≠ .exit 0 ∧ ¬(maxControlBytes < stdout.length ∨ maxControlBytes < stderr.length) := by
  rw [not_or, Nat.not_lt, Nat.not_lt]
  exact decide_eq_true_iff

theorem controlOwned_eq_ok {arguments : List String} {run : ProcessRun} :
    controlOwned arguments run = .ok () ↔ run.succeeds = true := by
  cases run with
  | ioFailed => exact iff_of_false (by intro h; cases h) (by decide)
  | readerFailed => exact iff_of_false (by intro h; cases h) (by decide)
  | ended ending stdout stderr =>
      rw [controlOwned_ended, succeeds_ended, ite_error_eq_ok]
      by_cases hexit : ending = .exit 0
      · rw [if_pos hexit]
        exact ⟨fun h => ⟨hexit, h.1⟩, fun h => ⟨h.2, rfl⟩⟩
      · rw [if_neg hexit]
        exact ⟨(fun h => by cases h.2), fun h => absurd h.1 hexit⟩

/-- Among the failures of a command, only one that ends without success is reported as `ControlFailed`. -/
theorem isControlFailed_controlOwned (arguments : List String) (run : ProcessRun) :
    LimaTaskRunner.isControlFailed (controlOwned arguments run) = run.refused := by
  cases run with
  | ioFailed => rfl
  | readerFailed => rfl
  | ended ending stdout stderr =>
      rw [controlOwned_ended, Bool.eq_iff_iff, refused_ended]
      by_cases hlarge : maxControlBytes < stdout.length ∨ maxControlBytes < stderr.length
      · rw [if_pos hlarge]
        exact iff_of_false Bool.false_ne_true fun h => h.2 hlarge
      · rw [if_neg hlarge]
        by_cases hexit : ending = .exit 0
        · rw [if_pos hexit]
          exact iff_of_false Bool.false_ne_true fun h => h.1 hexit
        · rw [if_neg hexit]
          exact iff_of_true rfl ⟨hexit, hlarge⟩

/-! ## What is left of an instance -/

/-- While there is an instance, the call has failed and the home is there for a recovery. -/
def FailsClosed (outcome : Except LimaRunnerError IsolatedTaskReceipt × LimaState) : Prop :=
  outcome.2.vm = true → (∃ error, outcome.1 = .error error) ∧ outcome.2.home = true

/-- The instance is left without its home: a `start` that does not succeed has created it, and a `delete` that ends without
success, and leaves it, is taken for one that finds nothing to delete. -/
structure Orphans (argv : List String) (steps : Steps) (home : Bool) : Prop where
  request : validateRequest argv = .ok ()
  fresh : home = false
  root : steps.createRoot = .ok ()
  created : steps.createHome = .ok ()
  image : steps.stageImage = .ok ()
  config : steps.writeConfig = .ok ()
  clock : ∃ startedAt, steps.startedAt = .ok startedAt
  validated : steps.validate.succeeds = true
  notStarted : steps.start.succeeds = false
  creates : steps.startCreates = true
  refused : steps.delete.refused = true
  leaves : steps.deleteLeaves = true
  removed : steps.removeHome = .ok ()

namespace LimaTaskRunner

variable {sha256 : Sha256} {environmentRoot : String} {environment : IsolatedWorktree} {runner : LimaTaskRunner}
  {argv : List String} {steps : Steps}

theorem finish_failsClosed {task : Except LimaRunnerError IsolatedTaskReceipt} {cleanup : Except LimaRunnerError Unit}
    {s : LimaState} (h : s.home = true) :
    FailsClosed (finish steps task cleanup s) ↔ ¬(cleanup = .ok () ∧ steps.removeHome = .ok () ∧ s.vm = true) := by
  unfold finish
  cases cleanup with
  | error error => exact iff_of_true (fun _ => ⟨⟨_, rfl⟩, h⟩) fun hok => by cases hok.1
  | ok =>
      cases hremove : steps.removeHome with
      | error error => exact iff_of_true (fun _ => ⟨⟨_, rfl⟩, h⟩) fun hok => by cases hok.2.1
      | ok =>
          have hgone (result : Except LimaRunnerError IsolatedTaskReceipt) (receipt : Option IsolatedTaskReceipt) :
              FailsClosed (result, ⟨false, s.vm, receipt⟩) ↔
                ¬((Except.ok () : Except LimaRunnerError Unit) = .ok () ∧
                  (Except.ok () : Except LimaRunnerError Unit) = .ok () ∧ s.vm = true) :=
            ⟨fun hclosed hok => Bool.noConfusion (hclosed hok.2.2).2, fun hno hvm => absurd ⟨rfl, rfl, hvm⟩ hno⟩
          cases task with
          | error error => exact hgone _ _
          | ok receipt =>
              cases hwrite : steps.writeReceipt with
              | error error => exact hgone _ _
              | ok => exact hgone _ _

/-- The cleanup reports success over an instance only where it takes a `delete` for one that finds nothing. -/
theorem cleanup_leaves {started vm : Bool} :
    ((cleanup sha256 environment steps started vm).1 = .ok () ∧ (cleanup sha256 environment steps started vm).2 = true) ↔
      started = false ∧ vm = true ∧ steps.delete.refused = true ∧ steps.deleteLeaves = true := by
  -- A `delete` that succeeds leaves nothing.
  have hsucceeded (arguments : List String) (hok : controlOwned arguments steps.delete = .ok ()) :
      (vm && steps.deleteLeaves) = false := by
    rw [steps.delete_gone (controlOwned_eq_ok.1 hok), Bool.and_false]
  unfold cleanup deleteInstance
  cases started with
  | true =>
      refine iff_of_false (fun hleft => ?_) (fun h => Bool.noConfusion h.1)
      rw [if_pos rfl] at hleft
      cases hstop : controlOwned ["--tty=false", "stop", "--force", instanceName sha256 environment] steps.stop with
      | error error =>
          rw [hstop] at hleft
          cases hleft.1
      | ok =>
          rw [hstop] at hleft
          exact Bool.false_ne_true ((hsucceeded _ hleft.1).symm.trans hleft.2)
  | false =>
      rw [if_neg Bool.false_ne_true]
      dsimp only
      rw [isControlFailed_controlOwned]
      cases hrefused : steps.delete.refused with
      | true =>
          rw [if_pos rfl, Bool.and_eq_true]
          exact ⟨fun h => ⟨rfl, h.2.1, rfl, h.2.2⟩, fun h => ⟨rfl, h.2.1, h.2.2.2⟩⟩
      | false =>
          rw [if_neg Bool.false_ne_true]
          exact iff_of_false (fun h => Bool.false_ne_true ((hsucceeded _ h.1).symm.trans h.2))
            fun h => Bool.noConfusion h.2.2.1

theorem prepare_home {home : Bool} (h : home = true) : (prepare argv steps home).2 = true := by
  unfold prepare
  cases validateRequest argv with
  | error error => exact h
  | ok =>
      cases steps.createRoot with
      | error error => exact h
      | ok =>
          dsimp only
          rw [if_pos h]
          exact h

theorem prepare_eq_ok {home home' : Bool} :
    prepare argv steps home = (.ok (), home') ↔
      validateRequest argv = .ok () ∧ steps.createRoot = .ok () ∧ home = false ∧ steps.createHome = .ok () ∧
        steps.stageImage = .ok () ∧ steps.writeConfig = .ok () ∧ home' = true := by
  unfold prepare
  cases validateRequest argv with
  | error error => exact iff_of_false (by intro h; cases h) (by rintro ⟨h, -⟩; cases h)
  | ok =>
      cases steps.createRoot with
      | error error => exact iff_of_false (by intro h; cases h) (by rintro ⟨-, h, -⟩; cases h)
      | ok =>
          cases home with
          | true => exact iff_of_false (by intro h; cases h) (by rintro ⟨-, -, h, -⟩; cases h)
          | false =>
              cases steps.createHome with
              | error error => exact iff_of_false (by intro h; cases h) (by rintro ⟨-, -, -, h, -⟩; cases h)
              | ok =>
                  cases steps.stageImage with
                  | error error => exact iff_of_false (by intro h; cases h) (by rintro ⟨-, -, -, -, h, -⟩; cases h)
                  | ok =>
                      constructor
                      · intro h
                        obtain ⟨hconfig, hhome⟩ := Prod.mk.inj h
                        exact ⟨rfl, rfl, rfl, rfl, rfl, hconfig, hhome.symm⟩
                      · rintro ⟨-, -, -, -, -, hconfig, rfl⟩
                        exact Prod.ext hconfig rfl

theorem task_leaves {startedAt : Nat} :
    ((runner.task sha256 environmentRoot environment argv steps startedAt false).2.1 = false ∧
      (runner.task sha256 environmentRoot environment argv steps startedAt false).2.2 = true) ↔
      steps.validate.succeeds = true ∧ steps.start.succeeds = false ∧ steps.startCreates = true := by
  unfold task
  cases hvalidate : validateCommand environmentRoot steps with
  | error error =>
      have hfailed : steps.validate.succeeds ≠ true := fun hok => by
        rw [validateCommand, controlOwned_eq_ok.2 hok] at hvalidate
        cases hvalidate
      exact iff_of_false (fun h => Bool.noConfusion h.2) fun h => hfailed h.1
  | ok =>
      have hvalidated : steps.validate.succeeds = true := controlOwned_eq_ok.1 hvalidate
      cases hstart : startCommand sha256 environmentRoot environment runner steps with
      | error error =>
          have hfailed : steps.start.succeeds = false := Bool.eq_false_iff.2 fun hok => by
            rw [startCommand, controlOwned_eq_ok.2 hok] at hstart
            cases hstart
          exact ⟨fun h => ⟨hvalidated, hfailed, h.2⟩, fun h => ⟨rfl, h.2.2⟩⟩
      | ok =>
          have hstarted : steps.start.succeeds = true := controlOwned_eq_ok.1 hstart
          exact iff_of_false (fun h => Bool.noConfusion h.1) fun h => Bool.false_ne_true (h.2.1.symm.trans hstarted)

/-- **Main result.** From a state in which no instance is without its home, a call fails closed exactly if it does not take
a failing `delete` for one that finds nothing. -/
theorem run_failsClosed_iff {s : LimaState} (h : s.vm = true → s.home = true) :
    FailsClosed (runner.run sha256 environmentRoot environment argv steps s) ↔ ¬Orphans argv steps s.home := by
  unfold run
  rcases hprepare : prepare argv steps s.home with ⟨_ | _, home⟩
  · refine iff_of_true (fun hvm => ⟨⟨_, rfl⟩, ?_⟩) fun hleft => ?_
    · have hhome : (prepare argv steps s.home).2 = true := prepare_home (h hvm)
      rwa [hprepare] at hhome
    · have hok : prepare argv steps s.home = (.ok (), true) := prepare_eq_ok.2
        ⟨hleft.request, hleft.root, hleft.fresh, hleft.created, hleft.image, hleft.config, rfl⟩
      rw [hprepare] at hok
      cases hok
  · obtain ⟨hrequest, hroot, hfresh, hcreated, himage, hconfig, rfl⟩ := prepare_eq_ok.1 hprepare
    have hnone : s.vm = false := Bool.eq_false_iff.2 fun hvm => Bool.false_ne_true (hfresh.symm.trans (h hvm))
    cases hclock : steps.startedAt with
    | error error =>
        refine iff_of_true (fun _ => ⟨⟨_, rfl⟩, rfl⟩) fun hleft => ?_
        obtain ⟨_, hok⟩ := hleft.clock
        rw [hclock] at hok
        cases hok
    | ok startedAt =>
        dsimp only
        rw [finish_failsClosed rfl, hnone]
        refine not_congr ⟨?_, fun hleft => ?_⟩
        · rintro ⟨hcleanup, hremove, hvm⟩
          obtain ⟨hstarted, hvm, hrefused, hleaves⟩ := cleanup_leaves.1 ⟨hcleanup, hvm⟩
          obtain ⟨hvalidated, hnotStarted, hcreates⟩ := task_leaves.1 ⟨hstarted, hvm⟩
          exact ⟨hrequest, hfresh, hroot, hcreated, himage, hconfig, ⟨startedAt, hclock⟩, hvalidated, hnotStarted,
            hcreates, hrefused, hleaves, hremove⟩
        · obtain ⟨hstarted, hvm⟩ := (@task_leaves sha256 environmentRoot environment runner argv steps startedAt).2
            ⟨hleft.validated, hleft.notStarted, hleft.creates⟩
          obtain ⟨hcleanup, hvm⟩ := (@cleanup_leaves sha256 environment steps _ _).2
            ⟨hstarted, hvm, hleft.refused, hleft.leaves⟩
          exact ⟨hcleanup, hleft.removed, hvm⟩

end LimaTaskRunner

/-! ## The recovery -/

/-- How everything outside goes in one recovery. The outcome of `stop` does not count there. -/
structure RecoverySteps where
  metadata : Except LimaRunnerError Unit
  discover : Except LimaRunnerError Unit
  delete : ProcessRun
  deleteLeaves : Bool
  removeHome : Except LimaRunnerError Unit
  delete_gone : delete.succeeds = true → deleteLeaves = false

/-- `cleanup_interrupted_lima_environment`: the home goes only when the `delete` of an instance has succeeded. -/
def recover (steps : RecoverySteps) (s : LimaState) : Except LimaRunnerError Unit × LimaState :=
  if s.home = false then (.ok (), s)
  else
    match steps.metadata with
    | .error error => (.error error, s)
    | .ok () =>
        if s.vm then
          match steps.discover with
          | .error error => (.error error, s)
          | .ok () =>
              match controlOwned ["recovery"] steps.delete with
              | .error error => (.error error, { s with vm := steps.deleteLeaves })
              | .ok () => (steps.removeHome, ⟨steps.removeHome.toBool == false, steps.deleteLeaves, s.receipt⟩)
        else (steps.removeHome, { s with home := steps.removeHome.toBool == false })

/-- After a recovery that succeeds there is no instance, and before that none is without its home. -/
theorem recover_gone {steps : RecoverySteps} {s : LimaState} (h : s.vm = true → s.home = true) :
    ((recover steps s).1 = .ok () → (recover steps s).2.vm = false) ∧
      ((recover steps s).2.vm = true → (recover steps s).2.home = true) := by
  unfold recover
  by_cases hhome : s.home = false
  · rw [if_pos hhome]
    exact ⟨fun _ => Bool.eq_false_iff.2 fun hvm => Bool.false_ne_true (hhome.symm.trans (h hvm)), h⟩
  · rw [if_neg hhome]
    cases steps.metadata with
    | error error => exact ⟨(fun hok => by cases hok), h⟩
    | ok =>
        cases hvm : s.vm with
        | false => exact ⟨fun _ => rfl, fun hvm' => Bool.noConfusion hvm'⟩
        | true =>
            cases steps.discover with
            | error error => exact ⟨(fun hok => by cases hok), h⟩
            | ok =>
                cases hdelete : controlOwned ["recovery"] steps.delete with
                | error error => exact ⟨(fun hok => by cases hok), fun _ => h hvm⟩
                | ok =>
                    have hgone := steps.delete_gone (controlOwned_eq_ok.1 hdelete)
                    exact ⟨fun _ => hgone, fun hvm' => absurd (hgone.symm.trans hvm') Bool.false_ne_true⟩

/-- What a call that fails closed leaves is gone after a recovery that succeeds. -/
theorem recover_of_failsClosed {outcome : Except LimaRunnerError IsolatedTaskReceipt × LimaState} (h : FailsClosed outcome)
    {recovery : RecoverySteps} (hok : (recover recovery outcome.2).1 = .ok ()) :
    (recover recovery outcome.2).2.vm = false :=
  (recover_gone fun hvm => (h hvm).2).1 hok

/-! ## A start that fails halfway -/

def sampleRunner : LimaTaskRunner where
  backendVersion := "limactl version 2.1.1"
  config := LimaRunnerConfig.macosVz ⟨"/images/task.raw", List.replicate 64 'a', "aarch64"⟩
  valid := by decide

def succeeded : ProcessRun := .ended (.exit 0) [] []

/-- Everything succeeds but `start` and `delete`, of which the one may create and the other leave the instance. -/
def sampleSteps (start delete : ProcessRun) (leaves : Bool) (hdelete : delete.succeeds = true → leaves = false) : Steps where
  createRoot := .ok ()
  createHome := .ok ()
  stageImage := .ok ()
  writeConfig := .ok ()
  startedAt := .ok 1000
  validate := succeeded
  start := start
  startCreates := true
  shell := succeeded
  gitOutputs := .ok ([], [])
  finishedAt := .ok 2000
  stop := succeeded
  delete := delete
  deleteLeaves := leaves
  removeHome := .ok ()
  writeReceipt := .ok ()
  delete_gone := hdelete

/-- When everything succeeds no instance is left. -/
theorem run_failsClosed_succeeded :
    FailsClosed (sampleRunner.run sampleSha256 "/state/review-1" (sampleWorktree .other) ["true"]
      (sampleSteps succeeded succeeded false fun _ => rfl) ⟨false, false, none⟩) :=
  (LimaTaskRunner.run_failsClosed_iff (by decide)).2 fun hleft => Bool.noConfusion hleft.leaves

/-- `start` exits with status 1 when the instance has booted, and `delete` does not end in time. -/
theorem booted_instance_orphaned :
    ¬∀ (sha256 : Sha256) (environmentRoot : String) (environment : IsolatedWorktree) (runner : LimaTaskRunner)
      (argv : List String) (steps : Steps) (s : LimaState), (s.vm = true → s.home = true) →
        FailsClosed (runner.run sha256 environmentRoot environment argv steps s) := by
  intro hclaim
  have hclosed := hclaim sampleSha256 "/state/review-1" (sampleWorktree .other) sampleRunner ["true"]
    (sampleSteps (.ended (.exit 1) [] []) (.ended (.timedOut none) [] []) true (by decide)) ⟨false, false, none⟩ (by decide)
  have hhome := (hclosed (by decide)).2
  revert hhome
  decide

end HyperTerm.Sandbox.Lima
