import HyperTerm.Protocol.Block
import HyperTerm.Sandbox.Seatbelt

/-!
# Launching a command under Seatbelt

`MacOsSeatbeltLauncher` turns a command and a profile into the command that is spawned in their stead: `sandbox-exec` with
a policy, and behind it the program with canonical path and its arguments.

* `compile` : the plan of a launch;
* `compile_eq_ok` : what a plan is made of;
* `compile_determined` : of two requests with one canonical form the plans are the same.
-/

namespace HyperTerm.Sandbox
open HyperTerm.Core HyperTerm.Protocol HyperTerm.Lib HyperTerm.Lib.Paths

def macosSeatbeltExecutable : PathBuf := "/usr/bin/sandbox-exec"

/-- What a launch asks of the host while it is planned. -/
structure Host extends FileSystem where
  isDir : CanonicalPath → Bool
  seatbeltIsFile : Except String Bool

/-- A canonical path is its own. -/
def FileSystem.Lawful (fs : FileSystem) : Prop :=
  ∀ path resolved, fs.canonicalize path = .ok resolved → fs.canonicalize (pathOf resolved.1) = .ok resolved

inductive CompileError where
  | seatbelt (error : SeatbeltError)
  | nulArgument
  deriving DecidableEq

def profileError (error : SandboxError) : CompileError := .seatbelt (.profile error)

def backendError (message : String) : CompileError := .seatbelt (.backend message)

structure SandboxCompileRequest where
  operationId : OperationId
  operationRevision : Nat
  actor : Actor
  command : TerminalCommand
  profile : SandboxProfile

structure SandboxLaunchPlan where
  command : TerminalCommand
  compiled : CompiledSandboxProfile
  clearEnvironment : Bool
  deriving DecidableEq

/-- The SHA-256 digests of the JSON texts of a profile and of a command. -/
structure SandboxDigests where
  profile : SandboxProfile → String
  action : TerminalCommand → String

/-! ## The command -/

def canonicalizeTerminalCommand (command : TerminalCommand) : Except CompileError TerminalCommand := do
  let program ← (normalizeAbsolutePath command.program).mapError profileError
  let cwd ← (command.cwd.toList.mapM normalizeAbsolutePath).mapError profileError
  (checkEnvironment command.env).mapError profileError
  if command.args.any fun argument => '\x00' ∈ argument.toList then .error .nulArgument
  else .ok { command with program := program, cwd := cwd.head? }

section

variable (host : Host)

def resolveWorkingDirectory (cwd : PathBuf) : Except CompileError PathBuf :=
  match host.canonicalize cwd with
  | .error error => .error (backendError ("sandbox working directory " ++ cwd ++ " is unavailable: " ++ error))
  | .ok resolved =>
      if host.isDir resolved = false then
        .error (backendError ("sandbox working directory " ++ pathOf resolved.1 ++ " is not a directory"))
      else .ok (pathOf resolved.1)

/-- `resolve_command_for_seatbelt`. -/
def resolveCommand (command : TerminalCommand) : Except CompileError TerminalCommand := do
  let command ← canonicalizeTerminalCommand command
  let program ← (resolveExecutable host.toFileSystem command.program).mapError .seatbelt
  let cwd ← okOr command.cwd (backendError "sandboxed commands require an explicit working directory")
  let cwd ← resolveWorkingDirectory host cwd
  .ok { command with program := pathOf program, cwd := some cwd }

/-- The launcher `/bin/sh` selects `/bin/bash` after the policy is active. -/
def addPlatformExecVariants (command : TerminalCommand) (profile : SandboxProfile) :
    Except CompileError SandboxProfile :=
  if command.program = "/bin/sh" then do
    let bash ← (resolveExecutable host.toFileSystem "/bin/bash").mapError .seatbelt
    let executables := (profile.process.allowedExecutables ++ [pathOf bash]).map pathNames
    .ok { profile with process := { profile.process with
      allowedExecutables := (sortDedup executables).map pathOf } }
  else .ok profile

end

def insertEntry (key value : String) : StringMap → StringMap
  | [] => [(key, value)]
  | entry :: entries =>
      if key < entry.1 then (key, value) :: entry :: entries
      else if key = entry.1 then (key, value) :: entries
      else entry :: insertEntry key value entries

/-- The loop of `merged_environment` over the environment of the command. -/
def mergedEnvironment (environment : StringMap) : StringMap → Except CompileError StringMap
  | [] => .ok environment
  | (key, value) :: rest =>
      if (environment.lookup key).any (· ≠ value) then
        .error (backendError ("command environment conflicts with sandbox-owned variable " ++ key))
      else mergedEnvironment (insertEntry key value environment) rest

/-! ## The plan -/

def validateNetworkPolicy (network : SandboxNetworkPolicy) : Except CompileError Unit :=
  match network with
  | .offline => .ok ()
  | .proxyOnly _ allowedHosts _ =>
      if allowedHosts = [] then
        .error (backendError "Seatbelt proxy-only networking requires an explicit host allowlist")
      else ((proxyLoopbackPort network).map fun _ => ()).mapError .seatbelt

def validateSupportedContract (profile : SandboxProfile) : Except CompileError Unit := do
  if profile.enforcement ≠ .native then
    .error (backendError "Seatbelt implements native operation isolation, not isolated tasks")
  else do
    validateNetworkPolicy profile.network
    if profile.lifetime ≠ .oneOperation ∧ profile.lifetime ≠ .oneTask then
      .error (backendError "Seatbelt does not support the requested sandbox lifetime")
    else if profile.resources ≠ ⟨none, none, none⟩ then
      .error (backendError "Seatbelt cannot enforce the requested resource limits")
    else .ok ()

def ensureSeatbeltExecutable (host : Host) : Except CompileError Unit :=
  match host.seatbeltIsFile with
  | .error error => .error (backendError ("Seatbelt executable is unavailable: " ++ error))
  | .ok false => .error (backendError "the pinned Seatbelt executable is not a regular file")
  | .ok true => .ok ()

/-- The arguments of `sandbox-exec`, with the program and its arguments behind its own. -/
def launchArguments (artifact : SeatbeltPolicyArtifact) (program : PathBuf) (arguments : List String) : List String :=
  "-p" :: artifact.policy :: (artifact.definitions.entries.map (fun definition => "-D" ++ definition.1 ++ "=" ++ definition.2) ++
    "--" :: program :: arguments)

section

variable (texts : PolicyTexts) (digests : SandboxDigests) (host : Host)

def compile (request : SandboxCompileRequest) : Except CompileError SandboxLaunchPlan :=
  if request.operationRevision = 0 then .error (backendError "operation revision must be non-zero")
  else do
    validateSupportedContract request.profile
    ensureSeatbeltExecutable host
    let command ← resolveCommand host request.command
    let profile ← (resolveProfile host.toFileSystem request.profile).mapError .seatbelt
    let profile ← addPlatformExecVariants host command profile
    let artifact ← (compilePolicy texts profile command.program).mapError .seatbelt
    let profileDigest ← (sandboxProfileDigest digests.profile profile).mapError profileError
    let canonical ← canonicalizeTerminalCommand command
    let environment ← mergedEnvironment profile.environment.environmentVariables command.env
    .ok ⟨⟨macosSeatbeltExecutable, launchArguments artifact command.program command.args, command.cwd, environment⟩,
      ⟨.macOsSeatbelt, true, profile, profileDigest, digests.action canonical⟩, true⟩

end

/-- The program and the arguments that a plan has `sandbox-exec` run. -/
def LaunchesAs (plan : SandboxLaunchPlan) (program : PathBuf) (arguments : List String) : Prop :=
  plan.command.program = macosSeatbeltExecutable ∧
    ∃ artifact, plan.command.args = launchArguments artifact program arguments

/-! ## What a plan is made of -/

variable {texts : PolicyTexts} {digests : SandboxDigests} {host : Host}

/-- A resolved profile has the environment of the one it is of. -/
theorem environment_of_resolveProfile {fs : FileSystem} {profile resolved : SandboxProfile}
    (h : resolveProfile fs profile = .ok resolved) : resolved.environment = profile.environment := by
  unfold resolveProfile at h
  simp only [bind_eq_ok, mapError_eq_ok] at h
  obtain ⟨canonical, hcanonical, _, -, _, -, _, -, h⟩ := h
  obtain rfl := Except.ok.inj h
  unfold canonicalizeSandboxProfile at hcanonical
  simp only [ite_error_eq_ok, bind_eq_ok, pure_eq_ok] at hcanonical
  obtain ⟨-, _, -, -, -, _, -, _, -, _, -, _, -, rfl⟩ := hcanonical
  rfl

theorem environment_of_addPlatformExecVariants {command : TerminalCommand} {profile profile' : SandboxProfile}
    (h : addPlatformExecVariants host command profile = .ok profile') : profile'.environment = profile.environment := by
  unfold addPlatformExecVariants at h
  split at h
  · simp only [bind_eq_ok] at h
    obtain ⟨_, -, h⟩ := h
    obtain rfl := Except.ok.inj h
    rfl
  · obtain rfl := Except.ok.inj h
    rfl

/-- A command whose program and directory are named by their canonical paths keeps them. -/
theorem resolveCommand_eq_ok (hlawful : host.Lawful) {command resolved : TerminalCommand} {cwd : PathBuf}
    {program directory : CanonicalPath} (hprogram : normalizeNames command.program = .ok program.1)
    (hprogramPath : host.canonicalize command.program = .ok program) (hcwd : command.cwd = some cwd)
    (hdirectory : normalizeNames cwd = .ok directory.1) (hdirectoryPath : host.canonicalize cwd = .ok directory)
    (h : resolveCommand host command = .ok resolved) :
    resolved = { command with program := pathOf program.1, cwd := some (pathOf directory.1) } := by
  unfold resolveCommand at h
  simp only [bind_eq_ok, mapError_eq_ok, okOr_eq_ok] at h
  obtain ⟨canonical, hcanonical, names, hnames, cwd', hcwd', path, hpath, h⟩ := h
  obtain rfl := Except.ok.inj h
  unfold canonicalizeTerminalCommand normalizeAbsolutePath at hcanonical
  rw [hprogram, hcwd] at hcanonical
  simp only [Option.toList_some, List.mapM_cons, List.mapM_nil, bind_eq_ok, mapError_eq_ok, map_eq_ok, hdirectory,
    pure_eq_ok, Except.ok.injEq, exists_eq_left', ite_error_eq_ok] at hcanonical
  obtain ⟨-, -, -, rfl⟩ := hcanonical
  obtain rfl : pathOf directory.1 = cwd' := Option.some.inj hcwd'
  have hnames' : names = program.1 := by
    unfold resolveExecutable at hnames
    rw [hlawful _ _ hprogramPath] at hnames
    dsimp only at hnames
    split at hnames
    · cases hnames
    · cases hnames
    · exact (Except.ok.inj hnames).symm
  have hpath' : path = pathOf directory.1 := by
    unfold resolveWorkingDirectory at hpath
    rw [hlawful _ _ hdirectoryPath] at hpath
    exact (Except.ok.inj (ite_error_eq_ok.mp hpath).2).symm
  rw [hnames', hpath']

theorem compile_eq_ok {request : SandboxCompileRequest} {plan : SandboxLaunchPlan}
    (h : compile texts digests host request = .ok plan) :
    ∃ command, resolveCommand host request.command = .ok command ∧
      LaunchesAs plan command.program command.args ∧ plan.command.cwd = command.cwd ∧
      mergedEnvironment request.profile.environment.environmentVariables command.env = .ok plan.command.env ∧
      plan.compiled.enforced = true ∧ plan.clearEnvironment = true := by
  unfold compile at h
  simp only [ite_error_eq_ok, bind_eq_ok, mapError_eq_ok] at h
  obtain ⟨-, _, -, _, -, command, hcommand, resolved, hresolved, profile, hprofile, artifact, -, _, -, _, -, environment,
    henvironment, h⟩ := h
  obtain rfl := Except.ok.inj h
  rw [environment_of_addPlatformExecVariants hprofile, environment_of_resolveProfile hresolved] at henvironment
  exact ⟨command, hcommand, ⟨rfl, artifact, rfl⟩, rfl, henvironment, rfl, rfl⟩

/-- **A plan is made of the canonical forms.** -/
theorem compile_determined {request request' : SandboxCompileRequest} {plan plan' : SandboxLaunchPlan}
    (hprofile : canonicalizeSandboxProfile request.profile = canonicalizeSandboxProfile request'.profile)
    (hcommand : resolveCommand host request.command = resolveCommand host request'.command)
    (h : compile texts digests host request = .ok plan) (h' : compile texts digests host request' = .ok plan') :
    plan = plan' := by
  have hresolve : resolveProfile host.toFileSystem request.profile = resolveProfile host.toFileSystem request'.profile := by
    unfold resolveProfile
    rw [hprofile]
  unfold compile at h h'
  rw [hcommand, hresolve] at h
  -- Only the guards in front look at the requests as they are.
  obtain ⟨_, -, h⟩ := bind_eq_ok.mp (ite_error_eq_ok.mp h).2
  obtain ⟨_, -, h'⟩ := bind_eq_ok.mp (ite_error_eq_ok.mp h').2
  obtain ⟨_, -, h⟩ := bind_eq_ok.mp h
  obtain ⟨_, -, h'⟩ := bind_eq_ok.mp h'
  exact Except.ok.inj (h.symm.trans h')

end HyperTerm.Sandbox
