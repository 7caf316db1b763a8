import HyperTerm.Core.Operation
import HyperTerm.Protocol.ExecutionContext
import HyperTerm.Sandbox.SeatbeltLaunch

/-!
# Launching a local MCP server

A server is prepared, a person reviews the digests of what was prepared, and before it is launched what was prepared is
checked against these digests again, since its fields can be changed in between.

* `prepareLocalMcpServer` : a launch with its digests;
* `validatePrepared` : the checks before a launch;
* `validatePrepared_prepare` : what was prepared passes them while the host stays as it is;
* `authorizeLocalMcpServer` : the plan of the process that is spawned;
* `launch_determined` : two values that are authorized for one operation spawn the same process.
-/

namespace HyperTerm.Drivers.LocalMcp
open HyperTerm.Core HyperTerm.Protocol HyperTerm.Lib HyperTerm.Lib.Paths HyperTerm.Sandbox

def localMcpLaunchSchemaVersion : Nat := 1

def maxServerIdBytes : Nat := 64

def maxArguments : Nat := 64

def maxArgumentBytes : Nat := 16 * 1024

def maxArgumentTotalBytes : Nat := 64 * 1024

/-- Bytes that need not be UTF-8. A path is a text here: one that is not UTF-8 is refused wherever it is written. -/
abbrev OsString := List UInt8

def toStr (s : OsString) : Option String := (fromUtf8 s).map String.ofList

inductive LocalMcpPlanError where
  | invalidServerId
  | path (label message : String)
  | executableDigestMismatch (expected actual : String)
  | unsafeExecutionContext
  | workingDirectoryMismatch
  | unsafeSandbox
  | tooManyArguments
  | nonUtf8Argument
  | nonUtf8Environment
  | invalidArgument
  | argumentsTooLarge
  | invalidRootsSnapshotDigest
  | launchNotAuthorized
  | preparedIdentityChanged (what : String)
  | sandbox (error : CompileError)
  | driver (message : String)
  deriving DecidableEq

structure LocalMcpServerConfig where
  serverId : String
  executable : PathBuf
  executableSha256 : String
  arguments : List OsString
  workingDirectory : PathBuf
  executionContext : ResolvedExecutionContext
  rootsSnapshotSha256 : Option String
  lifecycle : LocalMcpServerLifecycle
  credentialScope : LocalMcpCredentialScope

/-- Every field of it can be written. -/
structure PreparedLocalMcpServer where
  launch : LocalMcpServerLaunch
  executable : PathBuf
  arguments : List OsString
  environment : List (String × OsString)
  sandbox : SandboxProfile

structure AuthorizedLocalMcpServer where
  prepared : PreparedLocalMcpServer
  sandboxLaunch : SandboxLaunchPlan

structure LocalMcpRuntimeIdentityInput where
  schemaVersion : Nat
  serverId : String
  executable : PathBuf
  executableSha256 : String
  argumentsDigest : String
  argumentCount : Nat
  workingDirectory : PathBuf
  contextDigest : String
  sandboxProfileDigest : String
  rootsSnapshotSha256 : Option String
  lifecycle : LocalMcpServerLifecycle
  credentialScope : LocalMcpCredentialScope

/-- The SHA-256 digests of JSON texts. -/
structure LaunchDigests extends SandboxDigests where
  arguments : List String → String
  identity : LocalMcpRuntimeIdentityInput → String

/-- `sha256_file` reads the file that a canonical path names. -/
structure LaunchHost extends Host where
  sha256File : CanonicalPath → Except String String

/-! ## Checks of the parts -/

def validateServerId (serverId : String) : Except LocalMcpPlanError Unit :=
  if serverId = "" ∨ maxServerIdBytes < serverId.utf8ByteSize ∨
      (serverId.toList.all fun c => c.isAlphanum || c = '-' || c = '_') = false then
    .error .invalidServerId
  else .ok ()

def validateOptionalSha256 (value : Option String) : Except LocalMcpPlanError Unit :=
  if value.any fun value => value.utf8ByteSize ≠ 64 ∨
      (value.toList.all fun c => c.isDigit || (97 ≤ c.toNat ∧ c.toNat ≤ 102)) = false then
    .error .invalidRootsSnapshotDigest
  else .ok ()

/-- The loop of `validate_arguments`, with the bytes before. -/
def validateArgumentsFrom (totalBytes : Nat) : List OsString → Except LocalMcpPlanError (List String)
  | [] => .ok []
  | argument :: arguments => do
      let text ← okOr (toStr argument) .nonUtf8Argument
      if '\x00' ∈ text.toList ∨ maxArgumentBytes < text.utf8ByteSize then .error .invalidArgument
      else if maxArgumentTotalBytes < totalBytes + text.utf8ByteSize then .error .argumentsTooLarge
      else do
        let texts ← validateArgumentsFrom (totalBytes + text.utf8ByteSize) arguments
        .ok (text :: texts)

def validateArguments (arguments : List OsString) : Except LocalMcpPlanError (List String) :=
  if maxArguments < arguments.length then .error .tooManyArguments else validateArgumentsFrom 0 arguments

/-- The environment, if all of it is UTF-8. -/
def environmentTexts (environment : List (String × OsString)) : Except LocalMcpPlanError StringMap :=
  environment.mapM fun entry => (okOr (toStr entry.2) .nonUtf8Environment).map fun text => (entry.1, text)

/-- Paths are equal if their components are. -/
def samePath (path path' : PathBuf) : Bool := components path.toList = components path'.toList

section

variable (host : LaunchHost)

def canonicalExact (isKind : CanonicalPath → Bool) (label direct : String) (path : PathBuf) :
    Except LocalMcpPlanError CanonicalPath :=
  if isAbsolute path.toList = false then .error (.path label "path is not absolute")
  else match host.canonicalize path with
    | .error message => .error (.path label message)
    | .ok canonical =>
        if samePath (pathOf canonical.1) path = false ∨ isKind canonical = false then .error (.path label direct)
        else .ok canonical

def canonicalExactFile (path : PathBuf) (label : String) : Except LocalMcpPlanError CanonicalPath :=
  canonicalExact host (fun canonical => host.isFile canonical = .ok true) label
    "path must name the canonical regular file directly" path

def canonicalExactDirectory (path : PathBuf) : Except LocalMcpPlanError CanonicalPath :=
  canonicalExact host host.isDir "MCP working directory" "path must name the canonical directory directly" path

end

/-- Two launches are equal if their paths are and everything else is the same. -/
def sameLaunch (launch launch' : LocalMcpServerLaunch) : Bool :=
  samePath launch.executable launch'.executable && samePath launch.workingDirectory launch'.workingDirectory &&
    decide ({ launch with executable := launch'.executable, workingDirectory := launch'.workingDirectory } = launch')

/-! ## Preparing and authorizing -/

section

variable (texts : PolicyTexts) (digests : LaunchDigests) (host : LaunchHost)

def prepareLocalMcpServer (config : LocalMcpServerConfig) : Except LocalMcpPlanError PreparedLocalMcpServer := do
  validateServerId config.serverId
  if config.executionContext.schemaVersion ≠ executionContextSchemaVersion ∨ config.executionContext.mode = .user ∨
      config.executionContext.environment.clearInherited = false then
    .error .unsafeExecutionContext
  else do
    let executable ← canonicalExactFile host config.executable "MCP executable"
    let actualSha256 ← (host.sha256File executable).mapError .driver
    if actualSha256 ≠ config.executableSha256 then
      .error (.executableDigestMismatch config.executableSha256 actualSha256)
    else do
      let workingDirectory ← canonicalExactDirectory host config.workingDirectory
      let contextWorkingDirectory ← (host.canonicalize config.executionContext.workspace.workingDirectory).mapError
        (.path "execution-context working directory")
      if workingDirectory ≠ contextWorkingDirectory then .error .workingDirectoryMismatch
      else do
        let sandbox ← okOr config.executionContext.requestedSandbox .unsafeExecutionContext
        if sandbox.lifetime ≠ .oneTask ∨ sandbox.environment.clearInherited = false ∨
            sandbox.environment.environmentVariables ≠ config.executionContext.environment.environmentVariables then
          .error .unsafeSandbox
        else do
          let profileDigest ← (sandboxProfileDigest digests.profile sandbox).mapError fun error => .sandbox (profileError error)
          validateOptionalSha256 config.rootsSnapshotSha256
          let arguments ← validateArguments config.arguments
          let identity : LocalMcpRuntimeIdentityInput := ⟨localMcpLaunchSchemaVersion, config.serverId,
            pathOf executable.1, actualSha256, digests.arguments arguments, arguments.length, pathOf workingDirectory.1,
            config.executionContext.contextDigest, profileDigest, config.rootsSnapshotSha256, config.lifecycle,
            config.credentialScope⟩
          .ok
            { launch := ⟨localMcpLaunchSchemaVersion, config.serverId, pathOf executable.1, actualSha256,
                digests.arguments arguments, arguments.length, pathOf workingDirectory.1,
                config.executionContext.contextDigest, profileDigest, config.rootsSnapshotSha256, config.lifecycle,
                config.credentialScope, digests.identity identity⟩
              executable := pathOf executable.1
              arguments := config.arguments
              environment := config.executionContext.environment.environmentVariables.map fun entry =>
                (entry.1, utf8 entry.2.toList)
              sandbox := sandbox }

/-- `validate_prepared_local_mcp_server`. -/
def validatePrepared (prepared : PreparedLocalMcpServer) : Except LocalMcpPlanError Unit := do
  validateServerId prepared.launch.serverId
  if prepared.launch.schemaVersion ≠ localMcpLaunchSchemaVersion then .error (.preparedIdentityChanged "schema")
  else do
    let executable ← canonicalExactFile host prepared.executable "MCP executable"
    let executableSha256 ← (host.sha256File executable).mapError .driver
    if samePath (pathOf executable.1) prepared.launch.executable = false ∨
        executableSha256 ≠ prepared.launch.executableSha256 then
      .error (.preparedIdentityChanged "executable")
    else do
      let workingDirectory ← canonicalExactDirectory host prepared.launch.workingDirectory
      if samePath (pathOf workingDirectory.1) prepared.launch.workingDirectory = false then
        .error (.preparedIdentityChanged "working directory")
      else do
        let arguments ← validateArguments prepared.arguments
        if digests.arguments arguments ≠ prepared.launch.argumentsDigest ∨
            arguments.length ≠ prepared.launch.argumentCount then
          .error (.preparedIdentityChanged "arguments")
        else if prepared.sandbox.lifetime ≠ .oneTask ∨ prepared.sandbox.environment.clearInherited = false then
          .error .unsafeSandbox
        else do
          let environment ← environmentTexts prepared.environment
          if environment ≠ prepared.sandbox.environment.environmentVariables then
            .error (.preparedIdentityChanged "environment")
          else do
            let profileDigest ← (sandboxProfileDigest digests.profile prepared.sandbox).mapError
              fun error => .sandbox (profileError error)
            if profileDigest ≠ prepared.launch.sandboxProfileDigest then .error (.preparedIdentityChanged "sandbox")
            else do
              validateOptionalSha256 prepared.launch.rootsSnapshotSha256
              let identity : LocalMcpRuntimeIdentityInput := ⟨prepared.launch.schemaVersion, prepared.launch.serverId,
                pathOf executable.1, executableSha256, digests.arguments arguments, arguments.length,
                pathOf workingDirectory.1, prepared.launch.contextDigest, profileDigest,
                prepared.launch.rootsSnapshotSha256, prepared.launch.lifecycle, prepared.launch.credentialScope⟩
              if digests.identity identity ≠ prepared.launch.runtimeIdentityDigest then
                .error (.preparedIdentityChanged "runtime identity")
              else .ok ()

/-- The launch of an operation, which `matches!` compares. -/
def launches (operation : OperationRecord) (launch : LocalMcpServerLaunch) : Bool :=
  match operation.action with
  | .mcpServerLaunch launch' => sameLaunch launch' launch
  | _ => false

def authorizeLocalMcpServer (prepared : PreparedLocalMcpServer) (operation : OperationRecord) :
    Except LocalMcpPlanError AuthorizedLocalMcpServer :=
  if operation.kind ≠ .mcpServerLaunch ∨ operation.state ≠ .dispatching ∨ operation.revision = 0 ∨
      launches operation prepared.launch = false then
    .error .launchNotAuthorized
  else do
    validatePrepared digests host prepared
    let arguments ← validateArguments prepared.arguments
    let environment ← environmentTexts prepared.environment
    let sandboxLaunch ← (compile texts digests.toSandboxDigests host.toHost
      ⟨operation.operationId, operation.revision, .system,
        ⟨prepared.executable, arguments, some prepared.launch.workingDirectory, environment⟩,
        prepared.sandbox⟩).mapError .sandbox
    if sandboxLaunch.compiled.enforced = false ∨ sandboxLaunch.clearEnvironment = false then .error .unsafeSandbox
    else .ok ⟨prepared, sandboxLaunch⟩

end

/-! ## What was checked -/

variable {texts : PolicyTexts} {digests : LaunchDigests} {host : LaunchHost} {prepared : PreparedLocalMcpServer}

theorem toStr_eq_some {s : OsString} {text : String} (h : toStr s = some text) : s = utf8 text.toList := by
  obtain ⟨chars, hchars, rfl⟩ := Option.map_eq_some_iff.mp h
  rw [String.toList_ofList]
  exact (utf8_of_fromUtf8 hchars).symm

theorem validateArgumentsFrom_eq_ok {totalBytes : Nat} {arguments : List OsString} {texts : List String}
    (h : validateArgumentsFrom totalBytes arguments = .ok texts) : arguments = texts.map fun text => utf8 text.toList := by
  induction arguments generalizing totalBytes texts with
  | nil =>
      obtain rfl := Except.ok.inj h
      rfl
  | cons argument arguments ih =>
      unfold validateArgumentsFrom at h
      simp only [bind_eq_ok, okOr_eq_ok, ite_error_eq_ok] at h
      obtain ⟨text, htext, -, -, rest, hrest, h⟩ := h
      obtain rfl := Except.ok.inj h
      rw [List.map_cons, ← toStr_eq_some htext, ← ih hrest]

/-- The bytes of arguments that were accepted are those of their texts. -/
theorem validateArguments_eq_ok {arguments : List OsString} {texts : List String}
    (h : validateArguments arguments = .ok texts) : arguments = texts.map fun text => utf8 text.toList :=
  validateArgumentsFrom_eq_ok (ite_error_eq_ok.mp h).2

theorem environmentTexts_eq_ok {environment : List (String × OsString)} {texts : StringMap}
    (h : environmentTexts environment = .ok texts) :
    environment = texts.map fun entry => (entry.1, utf8 entry.2.toList) := by
  have hall := mapM_eq_ok.mp h
  clear h
  induction hall with
  | nil => rfl
  | cons hentry _ ih =>
      obtain ⟨text, htext, rfl⟩ := map_eq_ok.mp hentry
      rw [List.map_cons, ← toStr_eq_some (okOr_eq_ok.mp htext), ← ih]

theorem samePath_iff {path path' : PathBuf} : samePath path path' = true ↔ components path.toList = components path'.toList :=
  decide_eq_true_iff

/-- A path that names the file itself is spelled by the names of the canonical path. -/
theorem normalizeNames_of_samePath {canonical : CanonicalPath} {path : PathBuf} (habsolute : isAbsolute path.toList = true)
    (h : samePath (pathOf canonical.1) path = true) : normalizeNames path = .ok canonical.1 := by
  have hcomponents := samePath_iff.mp h
  rw [toList_pathOf] at hcomponents
  unfold normalizeNames
  rw [if_neg (by rw [habsolute]; decide), ← hcomponents, pushComponents_render canonical.2]
  rfl

theorem canonicalExact_eq_ok {isKind : CanonicalPath → Bool} {label direct : String} {path : PathBuf}
    {canonical : CanonicalPath} (h : canonicalExact host isKind label direct path = .ok canonical) :
    normalizeNames path = .ok canonical.1 ∧ host.canonicalize path = .ok canonical ∧ isKind canonical = true ∧
      samePath (pathOf canonical.1) path = true := by
  unfold canonicalExact at h
  obtain ⟨habsolute, h⟩ := ite_error_eq_ok.mp h
  rw [Bool.not_eq_false] at habsolute
  split at h
  · cases h
  · rename_i canonical' hcanonical
    obtain ⟨hdirect, h⟩ := ite_error_eq_ok.mp h
    obtain rfl := Except.ok.inj h
    rw [not_or, Bool.not_eq_false, Bool.not_eq_false] at hdirect
    exact ⟨normalizeNames_of_samePath habsolute hdirect.1, hcanonical, hdirect.2, hdirect.1⟩

/-- What the digests of a launch were compared with. -/
structure Validated (digests : LaunchDigests) (host : LaunchHost) (prepared : PreparedLocalMcpServer)
    (executable workingDirectory : CanonicalPath) : Prop where
  file : canonicalExactFile host prepared.executable "MCP executable" = .ok executable
  sameExecutable : samePath (pathOf executable.1) prepared.launch.executable = true
  sha256File : host.sha256File executable = .ok prepared.launch.executableSha256
  directory : canonicalExactDirectory host prepared.launch.workingDirectory = .ok workingDirectory
  arguments : (validateArguments prepared.arguments).map digests.arguments = .ok prepared.launch.argumentsDigest
  environment : environmentTexts prepared.environment = .ok prepared.sandbox.environment.environmentVariables
  sandbox : (canonicalizeSandboxProfile prepared.sandbox).map digests.profile = .ok prepared.launch.sandboxProfileDigest

theorem validatePrepared_eq_ok (h : validatePrepared digests host prepared = .ok ()) :
    ∃ executable workingDirectory, Validated digests host prepared executable workingDirectory := by
  unfold validatePrepared at h
  simp only [bind_eq_ok, ite_error_eq_ok, mapError_eq_ok] at h
  obtain ⟨_, -, -, executable, hexecutable, sha256, hsha256, hsame, workingDirectory, hdirectory, -, arguments, harguments,
    hdigest, -, environment, henvironment, hvariables, profileDigest, hprofile, hsandbox, -⟩ := h
  rw [not_or, Bool.not_eq_false, not_not] at hsame
  rw [not_or, not_not, not_not] at hdigest
  rw [not_not] at hvariables hsandbox
  obtain ⟨hsame, rfl⟩ := hsame
  obtain ⟨hdigest, -⟩ := hdigest
  refine ⟨executable, workingDirectory, hexecutable, hsame, hsha256, hdirectory, ?_, ?_, ?_⟩
  · rw [harguments, ← hdigest]
    rfl
  · rw [henvironment, hvariables]
  · rw [← hsandbox]
    exact hprofile

/-! ## What was prepared -/

/-- A canonical path names its file directly. -/
theorem canonicalExact_pathOf (hlawful : host.Lawful) {isKind : CanonicalPath → Bool} {label direct : String}
    {path : PathBuf} {canonical : CanonicalPath} (h : canonicalExact host isKind label direct path = .ok canonical) :
    canonicalExact host isKind label direct (pathOf canonical.1) = .ok canonical := by
  obtain ⟨-, hcanonical, hkind, -⟩ := canonicalExact_eq_ok h
  have hsame : samePath (pathOf canonical.1) (pathOf canonical.1) = true := samePath_iff.mpr rfl
  unfold canonicalExact
  rw [if_neg (by rw [toList_pathOf, isAbsolute_render]; decide), hlawful _ _ hcanonical]
  dsimp only
  rw [if_neg (by rw [hsame, hkind]; decide)]

theorem environmentTexts_utf8 (entries : StringMap) :
    environmentTexts (entries.map fun entry => (entry.1, utf8 entry.2.toList)) = .ok entries := by
  refine mapM_map_eq_ok fun entry _ => ?_
  have htext : toStr (utf8 entry.2.toList) = some entry.2 := by
    unfold toStr
    rw [fromUtf8_utf8, Option.map_some, String.ofList_toList]
  dsimp only
  rw [htext]
  rfl

/-- **Main result.** What was prepared passes the checks, as long as the host stays as it is. -/
theorem validatePrepared_prepare (hlawful : host.Lawful) {config : LocalMcpServerConfig}
    (h : prepareLocalMcpServer digests host config = .ok prepared) : validatePrepared digests host prepared = .ok () := by
  unfold prepareLocalMcpServer at h
  simp only [bind_eq_ok, ite_error_eq_ok, mapError_eq_ok, okOr_eq_ok] at h
  obtain ⟨_, hserverId, -, executable, hexecutable, actualSha256, hsha256, -, directory, hdirectory, -, -, -, sandbox, -,
    hsandbox, profileDigest, hprofile, _, hroots, arguments, harguments, h⟩ := h
  obtain rfl := Except.ok.inj h
  obtain ⟨hlifetime, hcleared, hvariables⟩ : sandbox.lifetime = .oneTask ∧ sandbox.environment.clearInherited = true ∧
      sandbox.environment.environmentVariables = config.executionContext.environment.environmentVariables := by
    rw [not_or, not_or, not_not, Bool.not_eq_false, not_not] at hsandbox
    exact hsandbox
  have hsame (path : PathBuf) : samePath path path = true := samePath_iff.mpr rfl
  unfold validatePrepared
  simp only [bind_eq_ok, ite_error_eq_ok, mapError_eq_ok]
  refine ⟨(), hserverId, not_not.mpr rfl, executable, canonicalExact_pathOf hlawful hexecutable, actualSha256, hsha256, ?_,
    directory, canonicalExact_pathOf hlawful hdirectory, ?_, arguments, harguments, ?_, ?_, _,
    environmentTexts_utf8 _, not_not.mpr hvariables.symm, profileDigest, hprofile, not_not.mpr rfl, (), hroots,
    not_not.mpr rfl, trivial⟩
  · rw [hsame]
    exact not_or.mpr ⟨Bool.true_eq_false_eq_False, not_not.mpr rfl⟩
  · rw [hsame]
    exact Bool.true_eq_false_eq_False
  · exact not_or.mpr ⟨not_not.mpr rfl, not_not.mpr rfl⟩
  · rw [hlifetime, hcleared]
    exact not_or.mpr ⟨not_not.mpr rfl, Bool.true_eq_false_eq_False⟩

/-! ## The process -/

/-- The command that is handed to the sandbox. -/
def PreparedLocalMcpServer.command (prepared : PreparedLocalMcpServer) (arguments : List String) : TerminalCommand :=
  ⟨prepared.executable, arguments, some prepared.launch.workingDirectory, prepared.sandbox.environment.environmentVariables⟩

/-- What is spawned for an operation: the program and its directory are named by their canonical paths, the file has the
digest of the launch, and the arguments, the environment and the profile have theirs. -/
structure Spawns (digests : LaunchDigests) (host : LaunchHost) (prepared : PreparedLocalMcpServer)
    (executable workingDirectory : CanonicalPath) (arguments : List String) : Prop where
  resolved : resolveCommand host.toHost (prepared.command arguments) =
    .ok { prepared.command arguments with
      program := pathOf executable.1
      cwd := some (pathOf workingDirectory.1) }
  sameExecutable : samePath (pathOf executable.1) prepared.launch.executable = true
  sameDirectory : samePath (pathOf workingDirectory.1) prepared.launch.workingDirectory = true
  sha256File : host.sha256File executable = .ok prepared.launch.executableSha256
  accepted : validateArguments prepared.arguments = .ok arguments
  argumentsDigest : digests.arguments arguments = prepared.launch.argumentsDigest
  environment : environmentTexts prepared.environment = .ok prepared.sandbox.environment.environmentVariables
  sandbox : ∃ canonical, canonicalizeSandboxProfile prepared.sandbox = .ok canonical ∧
    digests.profile canonical = prepared.launch.sandboxProfileDigest

theorem authorize_eq_ok {operation : OperationRecord} {authorized : AuthorizedLocalMcpServer}
    (h : authorizeLocalMcpServer texts digests host prepared operation = .ok authorized) :
    launches operation prepared.launch = true ∧ validatePrepared digests host prepared = .ok () ∧
      ∃ arguments environment, validateArguments prepared.arguments = .ok arguments ∧
        environmentTexts prepared.environment = .ok environment ∧
        compile texts digests.toSandboxDigests host.toHost
          ⟨operation.operationId, operation.revision, .system,
            ⟨prepared.executable, arguments, some prepared.launch.workingDirectory, environment⟩, prepared.sandbox⟩ =
          .ok authorized.sandboxLaunch := by
  unfold authorizeLocalMcpServer at h
  simp only [ite_error_eq_ok, bind_eq_ok, mapError_eq_ok] at h
  obtain ⟨hoperation, _, hvalid, arguments, harguments, environment, henvironment, sandboxLaunch, hcompile, -, h⟩ := h
  obtain rfl := Except.ok.inj h
  rw [not_or, not_or, not_or, Bool.not_eq_false] at hoperation
  exact ⟨hoperation.2.2.2, hvalid, arguments, environment, harguments, henvironment, hcompile⟩

theorem spawns_of_authorize (hlawful : host.Lawful) {operation : OperationRecord} {authorized : AuthorizedLocalMcpServer}
    (h : authorizeLocalMcpServer texts digests host prepared operation = .ok authorized) :
    ∃ executable workingDirectory arguments, Spawns digests host prepared executable workingDirectory arguments ∧
      compile texts digests.toSandboxDigests host.toHost
        ⟨operation.operationId, operation.revision, .system, prepared.command arguments, prepared.sandbox⟩ =
          .ok authorized.sandboxLaunch := by
  obtain ⟨-, hvalid, arguments, environment, harguments, henvironment, hcompile⟩ := authorize_eq_ok h
  obtain ⟨executable, workingDirectory, hvalidated⟩ := validatePrepared_eq_ok hvalid
  have hvariables : environment = prepared.sandbox.environment.environmentVariables :=
    Except.ok.inj (henvironment.symm.trans hvalidated.environment)
  rw [hvariables] at hcompile
  obtain ⟨command, hcommand, -⟩ := compile_eq_ok hcompile
  obtain ⟨hprogram, hprogramPath, -⟩ := canonicalExact_eq_ok hvalidated.file
  obtain ⟨hdirectory, hdirectoryPath, -, hsameDirectory⟩ := canonicalExact_eq_ok hvalidated.directory
  have hresolved := resolveCommand_eq_ok hlawful (by exact hprogram) hprogramPath rfl hdirectory hdirectoryPath hcommand
  rw [hresolved] at hcommand
  have hargumentsDigest := hvalidated.arguments
  rw [harguments] at hargumentsDigest
  exact ⟨executable, workingDirectory, arguments,
    ⟨hcommand, hvalidated.sameExecutable, hsameDirectory, hvalidated.sha256File, harguments,
      Except.ok.inj hargumentsDigest, hvalidated.environment, map_eq_ok.mp hvalidated.sandbox⟩, hcompile⟩

/-! ## Two launches of one operation -/

theorem samePath_pathOf {canonical canonical' : CanonicalPath} (h : samePath (pathOf canonical.1) (pathOf canonical'.1) = true) :
    canonical = canonical' := by
  have hcomponents := samePath_iff.mp h
  rw [toList_pathOf, toList_pathOf, components_render canonical.2, components_render canonical'.2] at hcomponents
  have hinjective : Function.Injective Component.normal := fun _ _ hname => Component.normal.inj hname
  exact Subtype.ext (List.map_injective_iff.mpr hinjective (List.cons.inj hcomponents).2)

/-- Two canonical paths that name what one operation names are the same. -/
theorem canonical_eq_of_samePath {canonical canonical' : CanonicalPath} {path path' named : PathBuf}
    (h : samePath (pathOf canonical.1) path = true) (h' : samePath (pathOf canonical'.1) path' = true)
    (hnamed : samePath named path = true) (hnamed' : samePath named path' = true) : canonical = canonical' := by
  rw [samePath_iff] at h h' hnamed hnamed'
  exact samePath_pathOf (samePath_iff.mpr (h.trans (hnamed.symm.trans (hnamed'.trans h'.symm))))

/-- SHA-256 gives the same digest to nothing else that the two values hold. -/
structure ToldApart (digests : LaunchDigests) (prepared prepared' : PreparedLocalMcpServer) : Prop where
  arguments : ∀ arguments arguments', validateArguments prepared.arguments = .ok arguments →
    validateArguments prepared'.arguments = .ok arguments' → digests.arguments arguments = digests.arguments arguments' →
      arguments = arguments'
  sandbox : ∀ canonical canonical', canonicalizeSandboxProfile prepared.sandbox = .ok canonical →
    canonicalizeSandboxProfile prepared'.sandbox = .ok canonical' → digests.profile canonical = digests.profile canonical' →
      canonical = canonical'

/-- The launch of an operation has the digests of what it launches, and names the same paths. -/
theorem sameLaunch_of_launches {operation : OperationRecord} {launch launch' : LocalMcpServerLaunch}
    (h : launches operation launch = true) (h' : launches operation launch' = true) :
    (∃ named, samePath named launch.executable = true ∧ samePath named launch'.executable = true) ∧
      (∃ named, samePath named launch.workingDirectory = true ∧ samePath named launch'.workingDirectory = true) ∧
      launch.executableSha256 = launch'.executableSha256 ∧ launch.argumentsDigest = launch'.argumentsDigest ∧
      launch.sandboxProfileDigest = launch'.sandboxProfileDigest := by
  unfold launches at h h'
  split at h
  · rename_i reviewed haction
    rw [haction] at h'
    unfold sameLaunch at h h'
    rw [Bool.and_eq_true, Bool.and_eq_true, decide_eq_true_iff] at h h'
    obtain ⟨⟨hexecutable, hdirectory⟩, hrest⟩ := h
    obtain ⟨⟨hexecutable', hdirectory'⟩, hrest'⟩ := h'
    refine ⟨⟨_, hexecutable, hexecutable'⟩, ⟨_, hdirectory, hdirectory'⟩, ?_⟩
    rw [← hrest, ← hrest']
    exact ⟨rfl, rfl, rfl⟩
  · cases h

theorem environment_of_canonicalize {profile canonical : SandboxProfile}
    (h : canonicalizeSandboxProfile profile = .ok canonical) : canonical.environment = profile.environment := by
  unfold canonicalizeSandboxProfile at h
  simp only [ite_error_eq_ok, bind_eq_ok, pure_eq_ok] at h
  obtain ⟨-, _, -, -, -, _, -, _, -, _, -, _, -, rfl⟩ := h
  rfl

/-- **The reviewed digests determine the process.** Two values that are authorized for one operation, each on the host as
it is then, have `sandbox-exec` run the same program, whose file has the same digest, with the same arguments, in the same
directory and with the same environment, under profiles with the same canonical form. On one host the plans are the same
altogether. -/
theorem launch_determined {texts : PolicyTexts} {digests : LaunchDigests} {host host' : LaunchHost}
    {prepared prepared' : PreparedLocalMcpServer} {operation : OperationRecord}
    {authorized authorized' : AuthorizedLocalMcpServer} (hlawful : host.Lawful) (hlawful' : host'.Lawful)
    (hapart : ToldApart digests prepared prepared')
    (h : authorizeLocalMcpServer texts digests host prepared operation = .ok authorized)
    (h' : authorizeLocalMcpServer texts digests host' prepared' operation = .ok authorized') :
    (∃ (executable : CanonicalPath) (digest : String) (arguments : List String),
      LaunchesAs authorized.sandboxLaunch (pathOf executable.1) arguments ∧
        LaunchesAs authorized'.sandboxLaunch (pathOf executable.1) arguments ∧
        host.sha256File executable = .ok digest ∧ host'.sha256File executable = .ok digest) ∧
      prepared.arguments = prepared'.arguments ∧ prepared.environment = prepared'.environment ∧
      authorized.sandboxLaunch.command.cwd = authorized'.sandboxLaunch.command.cwd ∧
      authorized.sandboxLaunch.command.env = authorized'.sandboxLaunch.command.env ∧
      canonicalizeSandboxProfile prepared.sandbox = canonicalizeSandboxProfile prepared'.sandbox ∧
      (host = host' → authorized.sandboxLaunch = authorized'.sandboxLaunch) := by
  obtain ⟨⟨_, hexecutable, hexecutable'⟩, ⟨_, hdirectory, hdirectory'⟩, hsha256, hargumentsDigest, hprofileDigest⟩ :=
    sameLaunch_of_launches (authorize_eq_ok h).1 (authorize_eq_ok h').1
  obtain ⟨executable, directory, arguments, hspawns, hcompile⟩ := spawns_of_authorize hlawful h
  obtain ⟨executable', directory', arguments', hspawns', hcompile'⟩ := spawns_of_authorize hlawful' h'
  obtain rfl := canonical_eq_of_samePath hspawns.sameExecutable hspawns'.sameExecutable hexecutable hexecutable'
  obtain rfl := canonical_eq_of_samePath hspawns.sameDirectory hspawns'.sameDirectory hdirectory hdirectory'
  obtain rfl := hapart.arguments _ _ hspawns.accepted hspawns'.accepted
    (hspawns.argumentsDigest.trans (hargumentsDigest.trans hspawns'.argumentsDigest.symm))
  obtain ⟨canonical, hcanonical, hdigest⟩ := hspawns.sandbox
  obtain ⟨canonical', hcanonical', hdigest'⟩ := hspawns'.sandbox
  obtain rfl := hapart.sandbox _ _ hcanonical hcanonical' (hdigest.trans (hprofileDigest.trans hdigest'.symm))
  have hvariables : prepared.sandbox.environment = prepared'.sandbox.environment :=
    (environment_of_canonicalize hcanonical).symm.trans (environment_of_canonicalize hcanonical')
  -- The environment is that of the profile, so its digest binds it as well.
  have hcommand : ({ prepared.command arguments with
      program := pathOf executable.1, cwd := some (pathOf directory.1) } : TerminalCommand) =
      { prepared'.command arguments with program := pathOf executable.1, cwd := some (pathOf directory.1) } := by
    unfold PreparedLocalMcpServer.command
    rw [hvariables]
  obtain ⟨command, hresolved, hlaunches, hcwd, henv, -⟩ := compile_eq_ok hcompile
  obtain ⟨command', hresolved', hlaunches', hcwd', henv', -⟩ := compile_eq_ok hcompile'
  obtain rfl := Except.ok.inj (hresolved.symm.trans hspawns.resolved)
  obtain rfl := Except.ok.inj (hresolved'.symm.trans hspawns'.resolved)
  refine ⟨⟨executable, prepared.launch.executableSha256, arguments, hlaunches, hlaunches', hspawns.sha256File, ?_⟩, ?_, ?_,
    hcwd.trans hcwd'.symm, ?_, hcanonical.trans hcanonical'.symm, ?_⟩
  · rw [hsha256]
    exact hspawns'.sha256File
  · rw [validateArguments_eq_ok hspawns.accepted, validateArguments_eq_ok hspawns'.accepted]
  · rw [environmentTexts_eq_ok hspawns.environment, environmentTexts_eq_ok hspawns'.environment, hvariables]
  · rw [hcommand, hvariables] at henv
    exact Except.ok.inj (henv.symm.trans henv')
  · rintro rfl
    refine compile_determined (hcanonical.trans hcanonical'.symm) ?_ hcompile hcompile'
    rw [hresolved, hresolved', hcommand]

/-! ## A path that is spelled in two ways -/

/-- There are no links. -/
def plainCanonicalize (path : PathBuf) : Except String CanonicalPath :=
  match h : normalizeNames path with
  | .ok names => .ok ⟨names, normalizeNames_isName h⟩
  | .error _ => .error "No such file or directory (os error 2)"

def plainHost : LaunchHost where
  canonicalize := plainCanonicalize
  isFile _ := .ok true
  isDir _ := true
  seatbeltIsFile := .ok true
  sha256File _ := .ok "e3b0"

def plainDigests : LaunchDigests where
  profile _ := "4d5c"
  action _ := "1a2b"
  arguments _ := "4f53"
  identity _ := "9e10"

def plainProfile : SandboxProfile where
  enforcement := .native
  filesystem := []
  network := .offline
  environment := ⟨true, []⟩
  macosMachServices := []
  process := ⟨false, false, []⟩
  resources := ⟨none, none, none⟩
  lifetime := .oneTask

def plainPrepared (executable : PathBuf) : PreparedLocalMcpServer where
  launch := ⟨1, "files", "/opt/mcp", "e3b0", "4f53", 0, "/work", "77aa", "4d5c", none, .oneTask, .serverLifetime, "9e10"⟩
  executable := executable
  arguments := []
  environment := []
  sandbox := plainProfile

def plainOperation : OperationRecord where
  taskId := ⟨1⟩
  operationId := ⟨2⟩
  revision := 3
  kind := .mcpServerLaunch
  action := .mcpServerLaunch (plainPrepared "/opt/mcp").launch
  summary := "Launch files"
  risk := .externalEffect
  requiredCapabilities := []
  state := .dispatching
  permissionDecision := none

theorem lawful_plainHost : plainHost.Lawful := by
  intro path resolved _
  show plainCanonicalize (pathOf resolved.1) = .ok resolved
  unfold plainCanonicalize
  split
  · rename_i names hnames
    rw [normalizeNames_pathOf resolved.2] at hnames
    exact congrArg Except.ok (Subtype.ext (Except.ok.inj hnames).symm)
  · rename_i error hnames
    rw [normalizeNames_pathOf resolved.2] at hnames
    cases hnames

def plainCommand : TerminalCommand := ⟨"/opt/mcp", [], some "/work", []⟩

theorem compilePolicy_plain : ∃ artifact,
    compilePolicy ⟨"(version 1)", ""⟩ plainProfile "/opt/mcp" = .ok artifact := by
  have hheader : '\x00' ∉ (policyHeader ⟨"(version 1)", ""⟩ plainProfile "/opt/mcp" none).toList := by
    rewrite [policyHeader, nul_notMem_append, nul_notMem_append, nul_notMem_append, nul_notMem_append, nul_notMem_append,
      nul_notMem_append, nul_notMem_append, nul_notMem_append]
    decide
  exact ⟨_, @compilePolicy_eq_ok ⟨"(version 1)", ""⟩ plainProfile "/opt/mcp" none rfl hheader⟩

theorem compile_plain {executable : PathBuf}
    (h : resolveCommand plainHost.toHost ⟨executable, [], some "/work", []⟩ = .ok plainCommand) :
    ∃ artifact, compile ⟨"(version 1)", ""⟩ plainDigests.toSandboxDigests plainHost.toHost
      ⟨⟨2⟩, 3, .system, ⟨executable, [], some "/work", []⟩, plainProfile⟩ =
        .ok ⟨⟨macosSeatbeltExecutable, launchArguments artifact "/opt/mcp" [], some "/work", []⟩,
          ⟨.macOsSeatbelt, true, plainProfile, "4d5c", "1a2b"⟩, true⟩ := by
  have hcontract : validateSupportedContract plainProfile = .ok () := by decide
  have hprofile : resolveProfile plainHost.toFileSystem plainProfile = .ok plainProfile := by decide
  have hvariants : addPlatformExecVariants plainHost.toHost plainCommand plainProfile = .ok plainProfile := by decide
  have hcanonical : canonicalizeTerminalCommand plainCommand = .ok plainCommand := by decide
  have hdigest : sandboxProfileDigest plainDigests.profile plainProfile = .ok "4d5c" := by decide
  obtain ⟨artifact, hartifact⟩ := compilePolicy_plain
  refine ⟨artifact, ?_⟩
  unfold compile
  dsimp only
  rw [if_neg (by decide)]
  refine bind_eq_ok.mpr ⟨(), hcontract, bind_eq_ok.mpr ⟨(), rfl, bind_eq_ok.mpr ⟨_, h, ?_⟩⟩⟩
  refine bind_eq_ok.mpr ⟨_, mapError_eq_ok.mpr hprofile, bind_eq_ok.mpr ⟨_, hvariants, ?_⟩⟩
  refine bind_eq_ok.mpr ⟨_, mapError_eq_ok.mpr hartifact, bind_eq_ok.mpr ⟨_, mapError_eq_ok.mpr hdigest, ?_⟩⟩
  exact bind_eq_ok.mpr ⟨_, hcanonical, bind_eq_ok.mpr ⟨_, rfl, rfl⟩⟩

theorem authorize_plainPrepared {executable : PathBuf}
    (h : resolveCommand plainHost.toHost ⟨executable, [], some "/work", []⟩ = .ok plainCommand)
    (hvalid : validatePrepared plainDigests plainHost (plainPrepared executable) = .ok ()) :
    ∃ authorized, authorizeLocalMcpServer ⟨"(version 1)", ""⟩ plainDigests plainHost (plainPrepared executable)
      plainOperation = .ok authorized := by
  obtain ⟨artifact, hplan⟩ := compile_plain h
  refine ⟨⟨plainPrepared executable, ⟨⟨macosSeatbeltExecutable, launchArguments artifact "/opt/mcp" [], some "/work", []⟩,
      ⟨.macOsSeatbelt, true, plainProfile, "4d5c", "1a2b"⟩, true⟩⟩, ?_⟩
  have hlaunch : ¬(plainOperation.kind ≠ .mcpServerLaunch ∨ plainOperation.state ≠ .dispatching ∨
      plainOperation.revision = 0 ∨ launches plainOperation (plainPrepared "/opt/mcp").launch = false) := by decide
  unfold authorizeLocalMcpServer
  rw [if_neg (by exact hlaunch)]
  refine bind_eq_ok.mpr ⟨(), hvalid, bind_eq_ok.mpr ⟨_, rfl, bind_eq_ok.mpr ⟨_, rfl, ?_⟩⟩⟩
  exact bind_eq_ok.mpr ⟨_, mapError_eq_ok.mpr hplan, if_neg (by rintro (h | h) <;> cases h)⟩

theorem launch_determined_respelled :
    ∃ authorized authorized',
      authorizeLocalMcpServer ⟨"(version 1)", ""⟩ plainDigests plainHost (plainPrepared "/opt/mcp") plainOperation =
          .ok authorized ∧
        authorizeLocalMcpServer ⟨"(version 1)", ""⟩ plainDigests plainHost (plainPrepared "/opt//mcp") plainOperation =
          .ok authorized' ∧
        authorized.sandboxLaunch = authorized'.sandboxLaunch := by
  have hresolve : ∀ executable ∈ ["/opt/mcp", "/opt//mcp"],
      resolveCommand plainHost.toHost ⟨executable, [], some "/work", []⟩ = .ok plainCommand := by decide
  have hvalid : ∀ executable ∈ ["/opt/mcp", "/opt//mcp"],
      validatePrepared plainDigests plainHost (plainPrepared executable) = .ok () := by decide
  have hsecond : "/opt//mcp" ∈ ["/opt/mcp", "/opt//mcp"] := List.mem_cons_of_mem _ List.mem_cons_self
  obtain ⟨authorized, h⟩ :=
    authorize_plainPrepared (hresolve _ List.mem_cons_self) (hvalid "/opt/mcp" List.mem_cons_self)
  obtain ⟨authorized', h'⟩ := authorize_plainPrepared (hresolve _ hsecond) (hvalid "/opt//mcp" hsecond)
  have hapart : ToldApart plainDigests (plainPrepared "/opt/mcp") (plainPrepared "/opt//mcp") :=
    ⟨fun _ _ hleft hright _ => Except.ok.inj (hleft.symm.trans hright),
      fun _ _ hleft hright _ => Except.ok.inj (hleft.symm.trans hright)⟩
  exact ⟨authorized, authorized', h, h',
    (launch_determined lawful_plainHost lawful_plainHost hapart h h').2.2.2.2.2.2 rfl⟩

/-- A project in which the server is started. -/
def plainContext : ResolvedExecutionContext where
  schemaVersion := 1
  contextId := "project"
  contextRevision := 1
  mode := .project
  contextDigest := "77aa"
  workspace := ⟨"/work", "/work", "/home", "/tmp"⟩
  runtime := ⟨["/usr/bin"], "C.UTF-8", "UTC", "dumb"⟩
  shell := none
  environment := ⟨true, [], [], "00ff"⟩
  credentialBindings := []
  requestedSandbox := some plainProfile

def plainConfig : LocalMcpServerConfig where
  serverId := "files"
  executable := "/opt//mcp"
  executableSha256 := "e3b0"
  arguments := []
  workingDirectory := "/work"
  executionContext := plainContext
  rootsSnapshotSha256 := none
  lifecycle := .oneTask
  credentialScope := .serverLifetime

theorem validatePrepared_plainConfig :
    prepareLocalMcpServer plainDigests plainHost plainConfig = .ok (plainPrepared "/opt/mcp") ∧
      validatePrepared plainDigests plainHost (plainPrepared "/opt/mcp") = .ok () := by
  have hprepare : prepareLocalMcpServer plainDigests plainHost plainConfig = .ok (plainPrepared "/opt/mcp") := by rfl
  exact ⟨hprepare, validatePrepared_prepare lawful_plainHost hprepare⟩

end HyperTerm.Drivers.LocalMcp
