import HyperTerm.Core.SandboxProfile
import HyperTerm.Protocol.ExecutionContext
import Mathlib.Algebra.Group.Nat.Defs
import Mathlib.Data.Prod.Lex

/-!
# Resolving an execution context

The spec is brought into a canonical form, its bindings are compiled into the variables of the environment, and the
result is identified by two digests.

* `canonicalizeSpec` : the checks on the spec, and its paths and credentials in canonical form;
* `validateBinding`, `resolveBindingValue`, `insertBinding` : one binding of the environment;
* `compileExecutionContext` : the resolved context and its receipt.

Digests and the JSON text that breaks ties between bindings are parameters.
-/

namespace HyperTerm.Core
open HyperTerm.Protocol HyperTerm.Lib HyperTerm.Lib.Paths

inductive ExecutionContextError where
  | unsupportedSchema (version : Nat)
  | zeroRevision
  | invalidContextId
  | userModeDenied
  | tooManyBindings
  | environmentTooLarge
  | pathMustBeAbsolute (path : PathBuf)
  | pathEscapesRoot (path : PathBuf)
  | workingDirectoryOutsideWorkspace
  | emptyRuntimePath
  | invalidRuntimePath
  | invalidRuntimeValue (name : String)
  | invalidShellInvocation
  | startupFilesDenied
  | sandboxRequired
  | invalidEnvironmentName (name : String)
  | environmentClassMismatch (name : String) (expected actual : EnvironmentClass)
  | reservedEnvironmentName (name : String)
  | workspaceBindingOutsideProject
  | workspaceAuthorityBinding (name : String)
  | codeInjectionBinding (name : String)
  | networkBindingRequiresAuthority (name : String)
  | authorityHandleRequiresBroker (name : String)
  | credentialLiteral (name : String)
  | secretReferenceRequiresCredential (name : String)
  | hostVariableDenied (name : String)
  | missingHostVariable (name : String)
  | nulEnvironmentValue (name : String)
  | environmentCollision (name : String)
  | environmentFileOutsideWorkspace (path : PathBuf)
  | environmentFileMissing (path : PathBuf)
  | environmentFileTooLarge (path : PathBuf)
  | environmentFileNotUtf8 (path : PathBuf)
  | invalidEnvironmentFileDigest
  | environmentFileDigestMismatch (expected actual : String)
  | malformedEnvironmentFile (line : Nat)
  | unsupportedEnvironmentFileSyntax (line : Nat)
  | duplicateEnvironmentFileKey (key : String)
  | environmentFileKeyMissing (key : String)
  | invalidCredentialRequirement
  | duplicateCredentialBinding (bindingId : String)
  /-- The source keeps the text of the error. -/
  | sandbox (error : SandboxError)
  deriving DecidableEq

def maxContextIdBytes : Nat := 128
def maxEnvironmentBindings : Nat := 128
def maxEnvironmentBytes : Nat := 256 * 1024
def maxEnvFileBytes : Nat := 1024 * 1024

def reservedEnvironmentNames : List String :=
  ["HTTP_PROXY", "HTTPS_PROXY", "NO_PROXY", "HYPER_OPERATION_ID", "HYPER_CONTEXT_DIGEST", "HYPER_CONTROL_FD",
    "HYPER_CREDENTIAL_SOCKET"]

structure ExecutionContextInputs where
  allowUserMode : Bool
  hostEnvironment : StringMap
  environmentFiles : List (PathBuf × List UInt8)

structure CompiledBinding where
  value : Option String
  metadata : ResolvedEnvironmentBinding
  overridePolicy : OverridePolicy

/-- What the source takes from SHA-256 and from `serde_json`. -/
structure ContextDigests where
  sourceSortKey : EnvironmentSource → String
  digestEnvironment : Bool → StringMap → List ResolvedEnvironmentBinding → String
  digestContext : ExecutionContextSpec → String → String
  hexDigest : List UInt8 → String

/-! ## Names and paths -/

def classifyEnvironmentName (name : String) : EnvironmentClass :=
  if name ∈ ["PATH", "HOME", "TMPDIR", "LANG", "LC_ALL", "TZ", "TERM", "COLORTERM"] then .runtimeSemantic
  else if name ∈ ["BASH_ENV", "ENV", "ZDOTDIR"] then .shellStartup
  else if name ∈ ["NODE_OPTIONS", "PYTHONPATH", "RUBYOPT", "PERL5OPT", "LD_PRELOAD"] then .loaderInjection
  else if name ∈ ["HTTP_PROXY", "HTTPS_PROXY", "ALL_PROXY", "NO_PROXY", "WS_PROXY", "WSS_PROXY", "SSL_CERT_FILE",
      "SSL_CERT_DIR"] then .networkControl
  else if name ∈ ["SSH_AUTH_SOCK", "GPG_AGENT_INFO", "DOCKER_HOST", "KUBECONFIG"] then .authorityHandle
  else if name ∈ ["TRACEPARENT", "TRACESTATE"] then .observability
  else if "DYLD_".toList.isPrefixOf name.toList then .loaderInjection
  else if "OTEL_".toList.isPrefixOf name.toList then .observability
  else if ["_TOKEN", "_API_KEY", "_SECRET", "_PASSWORD"].any fun ending => ending.toList.isSuffixOf name.toList then
    .credential
  else .toolConfiguration

def validateEnvironmentName (name : String) : Except ExecutionContextError Unit :=
  match name.toList with
  | [] => .error (.invalidEnvironmentName name)
  | first :: rest =>
      if (first.isAlpha || first == '_') && rest.all fun c => c.isAlphanum || c == '_' then .ok ()
      else .error (.invalidEnvironmentName name)

/-- `PathBuf::pop`, which leaves the root alone. -/
def popName (names : List (List Char)) : Option (List (List Char)) := if names = [] then none else some names.dropLast

/-- `normalize_absolute_path`, which resolves `..`. -/
def normalizeContextPath (path : PathBuf) : Except ExecutionContextError PathBuf :=
  if isAbsolute path.toList = false then .error (.pathMustBeAbsolute path)
  else (okOr (pushComponents popName [] (components path.toList)) (.pathEscapesRoot path)).map pathOf

/-- `Path::starts_with`. -/
def startsWith (path base : PathBuf) : Bool := (components base.toList).isPrefixOf (components path.toList)

/-- `Path::join`. -/
def joinPath (base path : PathBuf) : PathBuf :=
  if isAbsolute path.toList then path
  else if base.toList = [] ∨ base.toList.getLast? = some '/' then base ++ path
  else base ++ "/" ++ path

/-! ## The spec -/

/-- The loop over `runtime.path`. -/
def normalizeRuntimePath (seen : List PathBuf) : List PathBuf → Except ExecutionContextError (List PathBuf)
  | [] => .ok seen
  | path :: rest => do
      let path ← normalizeContextPath path
      normalizeRuntimePath (if path ∈ seen then seen else seen ++ [path]) rest

def checkRuntimeValues : List (String × String) → Except ExecutionContextError Unit
  | [] => .ok ()
  | (name, value) :: rest =>
      if value = "" ∨ '\x00' ∈ value.toList then .error (.invalidRuntimeValue name) else checkRuntimeValues rest

def canonicalShell (mode : ExecutionMode) :
    Option ShellContextSpec → Except ExecutionContextError (Option ShellContextSpec)
  | none => .ok none
  | some shell => do
      let executable ← normalizeContextPath shell.executable
      if shell.invocation = "" ∨ '\x00' ∈ shell.invocation.toList then .error .invalidShellInvocation
      else if mode ≠ .user ∧ shell.startupFiles = true then .error .startupFilesDenied
      else .ok (some { shell with executable := executable })

def credentialKey (credential : CredentialRequirement) : String ×ₗ String :=
  toLex (credential.bindingId, credential.targetName)

def sortCredentials (credentials : List CredentialRequirement) : List CredentialRequirement :=
  credentials.insertionSort fun left right => credentialKey left ≤ credentialKey right

def canonicalizeSpec (spec : ExecutionContextSpec) (allowUserMode : Bool) :
    Except ExecutionContextError ExecutionContextSpec :=
  if spec.schemaVersion ≠ executionContextSchemaVersion then .error (.unsupportedSchema spec.schemaVersion)
  else if spec.contextRevision = 0 then .error .zeroRevision
  else if spec.contextId = "" ∨ maxContextIdBytes < spec.contextId.utf8ByteSize ∨
      !(spec.contextId.toList.all fun c => c.isAlphanum || c == '-' || c == '_' || c == '.' || c == ':') then
    .error .invalidContextId
  else if spec.mode = .user ∧ allowUserMode = false then .error .userModeDenied
  else if maxEnvironmentBindings < spec.environment.bindings.length then .error .tooManyBindings
  else do
    let root ← normalizeContextPath spec.workspace.root
    let workingDirectory ← normalizeContextPath spec.workspace.workingDirectory
    let runtimeHome ← normalizeContextPath spec.workspace.runtimeHome
    let runtimeTemp ← normalizeContextPath spec.workspace.runtimeTemp
    if startsWith workingDirectory root = false then .error .workingDirectoryOutsideWorkspace
    else do
      let path ← normalizeRuntimePath [] spec.runtime.path
      if path = [] then .error .emptyRuntimePath
      else do
        checkRuntimeValues
          [("locale", spec.runtime.locale), ("timezone", spec.runtime.timezone), ("terminal", spec.runtime.terminal)]
        let shell ← canonicalShell spec.mode spec.shell
        if spec.mode ≠ .user ∧ spec.sandbox = none then .error .sandboxRequired
        else .ok { spec with
          workspace := ⟨root, workingDirectory, runtimeHome, runtimeTemp⟩
          runtime := { spec.runtime with path := path }
          shell := shell
          credentials := sortCredentials spec.credentials }

/-! ## Bindings -/

/-- `std::env::join_paths`. -/
def joinPaths (paths : List PathBuf) : Option String :=
  if paths.any fun path => ':' ∈ path.toList then none else some (String.intercalate ":" paths)

def runtimeBinding (name value : String) : CompiledBinding where
  value := some value
  metadata := ⟨name, .runtimeSemantic, .runtimeProfile, .processTree, .task, "runtime_profile"⟩
  overridePolicy := .deny

def runtimeBindings (spec : ExecutionContextSpec) : Except ExecutionContextError (List CompiledBinding) := do
  let path ← okOr (joinPaths spec.runtime.path) .invalidRuntimePath
  return [runtimeBinding "PATH" path, runtimeBinding "HOME" spec.workspace.runtimeHome,
    runtimeBinding "TMPDIR" spec.workspace.runtimeTemp, runtimeBinding "LANG" spec.runtime.locale,
    runtimeBinding "TZ" spec.runtime.timezone, runtimeBinding "TERM" spec.runtime.terminal]

/-- The last step of `validate_binding`, the source of the value against the class. -/
def validateSource (mode : ExecutionMode) (binding : EnvironmentBindingSpec) : Except ExecutionContextError Unit :=
  match binding.source, binding.bindingClass with
  | .literal _, .credential => .error (.credentialLiteral binding.targetName)
  | .secretReference _, .credential => .ok ()
  | .secretReference _, _ => .error (.secretReferenceRequiresCredential binding.targetName)
  | .hostVariable _, _ => if mode ≠ .user then .error (.hostVariableDenied binding.targetName) else .ok ()
  | _, _ => .ok ()

def validateBinding (mode : ExecutionMode) (binding : EnvironmentBindingSpec) : Except ExecutionContextError Unit := do
  validateEnvironmentName binding.targetName
  let inferred := classifyEnvironmentName binding.targetName
  if inferred ≠ .toolConfiguration ∧ inferred ≠ binding.bindingClass then
    .error (.environmentClassMismatch binding.targetName inferred binding.bindingClass)
  else if binding.targetName ∈ reservedEnvironmentNames ∧ binding.origin ≠ .authority ∧
      binding.origin ≠ .credentialBroker then
    .error (.reservedEnvironmentName binding.targetName)
  else if binding.origin = .workspace ∧ mode ≠ .project then .error .workspaceBindingOutsideProject
  else if binding.origin = .workspace ∧ binding.bindingClass ≠ .toolConfiguration ∧
      binding.bindingClass ≠ .observability then
    .error (.workspaceAuthorityBinding binding.targetName)
  else if mode ≠ .user ∧ (binding.bindingClass = .shellStartup ∨ binding.bindingClass = .loaderInjection) then
    .error (.codeInjectionBinding binding.targetName)
  else if binding.bindingClass = .networkControl ∧ binding.origin ≠ .authority then
    .error (.networkBindingRequiresAuthority binding.targetName)
  else if binding.bindingClass = .authorityHandle ∧ ¬(binding.origin = .authority ∨ binding.origin = .credentialBroker)
  then
    .error (.authorityHandleRequiresBroker binding.targetName)
  else validateSource mode binding

/-! ## Environment files -/

/-- A line without its terminator, as `str::lines` gives it: a carriage return counts only before a newline. -/
def stripTerminator (line : List Char) : List Char :=
  if line.getLast? = some '\n' then
    if line.dropLast.getLast? = some '\r' then line.dropLast.dropLast else line.dropLast
  else line

/-- `split_inclusive('\n')`. -/
def splitInclusive : List Char → List (List Char)
  | [] => []
  | c :: rest =>
      if c = '\n' then [c] :: splitInclusive rest
      else match splitInclusive rest with
        | [] => [[c]]
        | line :: lines => (c :: line) :: lines

def parseEnvFileScalar (value : List Char) (line : Nat) : Except ExecutionContextError (List Char) :=
  if '\x00' ∈ value then .error (.malformedEnvironmentFile line)
  else match value with
    | [] => .ok []
    | quote :: rest =>
        if quote ≠ '\'' ∧ quote ≠ '"' then
          if trim value ≠ value ∨ '\\' ∈ value then .error (.unsupportedEnvironmentFileSyntax line) else .ok value
        else if rest.getLast? ≠ some quote then .error (.malformedEnvironmentFile line)
        else if quote ∈ rest.dropLast ∨ '\\' ∈ rest.dropLast then .error (.unsupportedEnvironmentFileSyntax line)
        else .ok rest.dropLast

/-- The loop over the lines; `index` is that of the first of them. -/
def parseEnvLines (values : StringMap) (index : Nat) : List (List Char) → Except ExecutionContextError StringMap
  | [] => .ok values
  | rawLine :: rest =>
      let line := trim (stripTerminator rawLine)
      if line = [] ∨ line.head? = some '#' then parseEnvLines values (index + 1) rest
      else if "export ".toList.isPrefixOf line then .error (.unsupportedEnvironmentFileSyntax (index + 1))
      else do
        let parts ← okOr (splitOnce '=' line) (.malformedEnvironmentFile (index + 1))
        let name := String.ofList parts.1
        (validateEnvironmentName name).mapError fun _ => .malformedEnvironmentFile (index + 1)
        if (values.lookup name).isSome then .error (.duplicateEnvironmentFileKey name)
        else do
          let value ← parseEnvFileScalar parts.2 (index + 1)
          parseEnvLines ((name, String.ofList value) :: values) (index + 1) rest

def parseEnvFileValue (contents : List Char) (requestedKey : String) : Except ExecutionContextError String := do
  let values ← parseEnvLines [] 0 (splitInclusive contents)
  okOr (values.lookup requestedKey) (.environmentFileKeyMissing requestedKey)

def validSha256 (value : String) : Bool :=
  value.utf8ByteSize == 64 && value.toList.all fun c => c.isDigit || ('a' ≤ c && c ≤ 'f')

/-- Keys of a `BTreeMap` of paths compare by their components. -/
def environmentFile (files : List (PathBuf × List UInt8)) (path : PathBuf) : Option (List UInt8) :=
  (files.find? fun entry => components entry.1.toList = components path.toList).map Prod.snd

def checkFileDigest (hexDigest : List UInt8 → String) (bytes : List UInt8) : Option String → Except ExecutionContextError Unit
  | none => .ok ()
  | some expected =>
      if validSha256 expected = false then .error .invalidEnvironmentFileDigest
      else if hexDigest bytes ≠ expected then .error (.environmentFileDigestMismatch expected (hexDigest bytes))
      else .ok ()

section
variable (digests : ContextDigests)

def resolveEnvFile (root : PathBuf) (files : List (PathBuf × List UInt8)) (path : PathBuf) (key : String)
    (expectedSha256 : Option String) : Except ExecutionContextError String := do
  validateEnvironmentName key
  let path ← normalizeContextPath (if isAbsolute path.toList then path else joinPath root path)
  if startsWith path root = false then .error (.environmentFileOutsideWorkspace path)
  else do
    let bytes ← okOr (environmentFile files path) (.environmentFileMissing path)
    if maxEnvFileBytes < bytes.length then .error (.environmentFileTooLarge path)
    else do
      checkFileDigest digests.hexDigest bytes expectedSha256
      let text ← okOr (fromUtf8 bytes) (.environmentFileNotUtf8 path)
      parseEnvFileValue text key

def derivedValue (workspace : WorkspaceContextSpec) : DerivedBinding → String
  | .workspaceRoot => workspace.root
  | .workingDirectory => workspace.workingDirectory
  | .runtimeHome => workspace.runtimeHome
  | .runtimeTemp => workspace.runtimeTemp

/-- The value that the source of a binding names; nothing for a secret. -/
def sourceValue (workspace : WorkspaceContextSpec) (inputs : ExecutionContextInputs) :
    EnvironmentSource → Except ExecutionContextError (Option String)
  | .literal value => .ok (some value)
  | .hostVariable name => do
      validateEnvironmentName name
      let value ← okOr (inputs.hostEnvironment.lookup name) (.missingHostVariable name)
      return some value
  | .envFileKey path key expectedSha256 => do
      let value ← resolveEnvFile digests workspace.root inputs.environmentFiles path key expectedSha256
      return some value
  | .secretReference _ => .ok none
  | .derived binding => .ok (some (derivedValue workspace binding))

def resolveBindingValue (workspace : WorkspaceContextSpec) (inputs : ExecutionContextInputs)
    (binding : EnvironmentBindingSpec) : Except ExecutionContextError (Option String) := do
  let value ← sourceValue digests workspace inputs binding.source
  if value.any fun text => '\x00' ∈ text.toList then .error (.nulEnvironmentValue binding.targetName) else .ok value

def sourceKind : EnvironmentSource → String
  | .literal _ => "literal"
  | .hostVariable _ => "host_variable"
  | .envFileKey _ _ _ => "env_file_key"
  | .secretReference _ => "secret_reference"
  | .derived _ => "derived"

def resolvedMetadata (binding : EnvironmentBindingSpec) : ResolvedEnvironmentBinding :=
  ⟨binding.targetName, binding.bindingClass, binding.origin, binding.scope, binding.lifetime, sourceKind binding.source⟩

/-! ## The environment -/

def originRank : EnvironmentBindingOrigin → Nat
  | .builtIn => 0
  | .runtimeProfile => 1
  | .workspace => 2
  | .invocation => 3
  | .authority => 4
  | .credentialBroker => 5

theorem originRank_injective : Function.Injective originRank := by
  intro left right h
  cases left <;> cases right <;> first | rfl | cases h

instance : LinearOrder EnvironmentBindingOrigin := LinearOrder.lift' originRank originRank_injective

/-- A binding replaces only one of its class and of a lower origin. -/
def MayReplace (collisionPolicy : CollisionPolicy) (existing binding : CompiledBinding) : Prop :=
  collisionPolicy = .explicitOverride ∧ binding.overridePolicy = .replaceSameClass ∧
    existing.metadata.bindingClass = binding.metadata.bindingClass ∧ existing.metadata.origin < binding.metadata.origin

instance (collisionPolicy : CollisionPolicy) (existing binding : CompiledBinding) :
    Decidable (MayReplace collisionPolicy existing binding) := by unfold MayReplace; infer_instance

def insertBinding (compiled : OrderedMap String CompiledBinding) (binding : CompiledBinding)
    (collisionPolicy : CollisionPolicy) : Except ExecutionContextError (OrderedMap String CompiledBinding) :=
  if (compiled.get? binding.metadata.targetName).all fun existing => MayReplace collisionPolicy existing binding then
    .ok (compiled.insert binding.metadata.targetName binding)
  else .error (.environmentCollision binding.metadata.targetName)

def bindingKey (binding : EnvironmentBindingSpec) : EnvironmentBindingOrigin ×ₗ String ×ₗ String :=
  toLex (binding.origin, toLex (binding.targetName, digests.sourceSortKey binding.source))

def sortBindings (bindings : List EnvironmentBindingSpec) : List EnvironmentBindingSpec :=
  bindings.insertionSort fun left right => bindingKey digests left ≤ bindingKey digests right

def insertRuntimeBindings (compiled : OrderedMap String CompiledBinding) :
    List CompiledBinding → Except ExecutionContextError (OrderedMap String CompiledBinding)
  | [] => .ok compiled
  | binding :: rest => do
      let compiled ← insertBinding compiled binding .explicitOverride
      insertRuntimeBindings compiled rest

/-- The loop over the sorted bindings. -/
def compileBindings (canonical : ExecutionContextSpec) (inputs : ExecutionContextInputs)
    (compiled : OrderedMap String CompiledBinding) :
    List EnvironmentBindingSpec → Except ExecutionContextError (OrderedMap String CompiledBinding)
  | [] => .ok compiled
  | binding :: rest => do
      validateBinding canonical.mode binding
      let value ← resolveBindingValue digests canonical.workspace inputs binding
      let compiled ← insertBinding compiled ⟨value, resolvedMetadata binding, binding.overridePolicy⟩
        canonical.environment.collisionPolicy
      compileBindings canonical inputs compiled rest

/-- The loop over the credentials, with the identities seen so far. -/
def validateCredentials (seen : List String) : List CredentialRequirement → Except ExecutionContextError Unit
  | [] => .ok ()
  | credential :: rest =>
      if credential.bindingId = "" ∨ credential.targetName = "" ∨ credential.audience = "" ∨
          credential.reference.providerId = "" ∨ credential.reference.secretId = "" then
        .error .invalidCredentialRequirement
      else if credential.bindingId ∈ seen then .error (.duplicateCredentialBinding credential.bindingId)
      else validateCredentials (credential.bindingId :: seen) rest

def compiledVariables (compiled : OrderedMap String CompiledBinding) : StringMap :=
  compiled.entries.filterMap fun entry => entry.2.value.map fun value => (entry.1, value)

def environmentBytes (environmentVariables : StringMap) : Nat :=
  (environmentVariables.map fun entry => entry.1.utf8ByteSize + entry.2.utf8ByteSize).sum

def canonicalSandbox (clearInherited : Bool) (environmentVariables : StringMap) :
    Option SandboxProfile → Except ExecutionContextError (Option SandboxProfile)
  | none => .ok none
  | some sandbox => do
      let sandbox ← (canonicalizeSandboxProfile
        { sandbox with environment := ⟨clearInherited, environmentVariables⟩ }).mapError .sandbox
      return some sandbox

/-- The variables, the metadata and the digest of the compiled bindings. -/
def environmentPlan (mode : ExecutionMode) (compiled : OrderedMap String CompiledBinding) : ResolvedEnvironmentPlan :=
  let clearInherited := decide (mode ≠ .user)
  let environmentVariables := compiledVariables compiled
  let bindings := compiled.values.map CompiledBinding.metadata
  ⟨clearInherited, environmentVariables, bindings, digests.digestEnvironment clearInherited environmentVariables bindings⟩

/-- The first part of `compile_execution_context`: the spec whose digest identifies the context, and the environment. -/
def resolveContext (spec : ExecutionContextSpec) (inputs : ExecutionContextInputs) :
    Except ExecutionContextError (ExecutionContextSpec × ResolvedEnvironmentPlan) := do
  let canonical ← canonicalizeSpec spec inputs.allowUserMode
  let runtime ← runtimeBindings canonical
  let base ← insertRuntimeBindings OrderedMap.empty runtime
  let bindings := sortBindings digests canonical.environment.bindings
  let compiled ← compileBindings digests canonical inputs base bindings
  validateCredentials [] canonical.credentials
  let environment := environmentPlan digests canonical.mode compiled
  if maxEnvironmentBytes < environmentBytes environment.environmentVariables then .error .environmentTooLarge
  else do
    let sandbox ← canonicalSandbox environment.clearInherited environment.environmentVariables canonical.sandbox
    return ({ canonical with
      environment := { canonical.environment with bindings := bindings }
      sandbox := sandbox }, environment)

def bindingReceipt (binding : ResolvedEnvironmentBinding) : ContextBindingReceipt :=
  ⟨binding.targetName, binding.bindingClass, binding.origin, binding.scope, binding.lifetime, binding.sourceKind⟩

/-- The resolved context and the receipt, from the canonical spec and its environment. -/
def resolvedContext (canonical : ExecutionContextSpec) (environment : ResolvedEnvironmentPlan) :
    ResolvedExecutionContext × ContextReceipt :=
  let contextDigest := digests.digestContext canonical environment.digest
  ({ schemaVersion := canonical.schemaVersion
     contextId := canonical.contextId
     contextRevision := canonical.contextRevision
     mode := canonical.mode
     contextDigest := contextDigest
     workspace := canonical.workspace
     runtime := canonical.runtime
     shell := canonical.shell
     environment := environment
     credentialBindings := canonical.credentials
     requestedSandbox := canonical.sandbox },
   { schemaVersion := executionContextSchemaVersion
     contextId := canonical.contextId
     contextRevision := canonical.contextRevision
     mode := canonical.mode
     contextDigest := contextDigest
     environmentDigest := environment.digest
     clearInherited := environment.clearInherited
     bindings := environment.bindings.map bindingReceipt
     credentialBindings := canonical.credentials })

def compileExecutionContext (spec : ExecutionContextSpec) (inputs : ExecutionContextInputs) :
    Except ExecutionContextError (ResolvedExecutionContext × ContextReceipt) :=
  (resolveContext digests spec inputs).map fun resolved => resolvedContext digests resolved.1 resolved.2

end

/-! ## What was accepted -/

variable {digests : ContextDigests} {inputs : ExecutionContextInputs} {spec canonical : ExecutionContextSpec}
  {allowUserMode : Bool}

/-- The checks that no path takes part in. -/
def SpecAdmissible (spec : ExecutionContextSpec) (allowUserMode : Bool) : Prop :=
  spec.schemaVersion = executionContextSchemaVersion ∧ spec.contextRevision ≠ 0 ∧
    ¬(spec.contextId = "" ∨ maxContextIdBytes < spec.contextId.utf8ByteSize ∨
      (!(spec.contextId.toList.all fun c => c.isAlphanum || c == '-' || c == '_' || c == '.' || c == ':')) = true) ∧
    ¬(spec.mode = .user ∧ allowUserMode = false) ∧ ¬maxEnvironmentBindings < spec.environment.bindings.length ∧
    checkRuntimeValues
      [("locale", spec.runtime.locale), ("timezone", spec.runtime.timezone), ("terminal", spec.runtime.terminal)] = .ok () ∧
    ¬(spec.mode ≠ .user ∧ spec.sandbox = none)

theorem canonicalizeSpec_eq_ok :
    canonicalizeSpec spec allowUserMode = .ok canonical ↔ SpecAdmissible spec allowUserMode ∧
      ∃ root, normalizeContextPath spec.workspace.root = .ok root ∧
      ∃ workingDirectory, normalizeContextPath spec.workspace.workingDirectory = .ok workingDirectory ∧
      ∃ runtimeHome, normalizeContextPath spec.workspace.runtimeHome = .ok runtimeHome ∧
      ∃ runtimeTemp, normalizeContextPath spec.workspace.runtimeTemp = .ok runtimeTemp ∧
      ¬startsWith workingDirectory root = false ∧
      ∃ path, normalizeRuntimePath [] spec.runtime.path = .ok path ∧ path ≠ [] ∧
      ∃ shell, canonicalShell spec.mode spec.shell = .ok shell ∧
        { spec with
          workspace := ⟨root, workingDirectory, runtimeHome, runtimeTemp⟩
          runtime := { spec.runtime with path := path }
          shell := shell
          credentials := sortCredentials spec.credentials } = canonical := by
  unfold canonicalizeSpec SpecAdmissible
  simp only [ite_error_eq_ok, bind_eq_ok, Except.ok.injEq, not_not]
  constructor
  · rintro ⟨hschema, hrevision, hid, huser, hcount, root, hroot, workingDirectory, hworking, runtimeHome, hhome, runtimeTemp,
      htemp, hinside, path, hpath, hne, ⟨⟩, hvalues, shell, hshell, hsandbox, hcanonical⟩
    exact ⟨⟨hschema, hrevision, hid, huser, hcount, hvalues, hsandbox⟩, root, hroot, workingDirectory, hworking, runtimeHome,
      hhome, runtimeTemp, htemp, hinside, path, hpath, hne, shell, hshell, hcanonical⟩
  · rintro ⟨⟨hschema, hrevision, hid, huser, hcount, hvalues, hsandbox⟩, root, hroot, workingDirectory, hworking, runtimeHome,
      hhome, runtimeTemp, htemp, hinside, path, hpath, hne, shell, hshell, hcanonical⟩
    exact ⟨hschema, hrevision, hid, huser, hcount, root, hroot, workingDirectory, hworking, runtimeHome, hhome, runtimeTemp,
      htemp, hinside, path, hpath, hne, (), hvalues, shell, hshell, hsandbox, hcanonical⟩

theorem canonicalizeSpec_keeps (h : canonicalizeSpec spec allowUserMode = .ok canonical) :
    canonical.mode = spec.mode ∧ canonical.environment = spec.environment ∧
      canonical.credentials = sortCredentials spec.credentials ∧ canonical.sandbox = spec.sandbox := by
  obtain ⟨-, root, -, workingDirectory, -, runtimeHome, -, runtimeTemp, -, -, path, -, -, shell, -, rfl⟩ :=
    canonicalizeSpec_eq_ok.mp h
  exact ⟨rfl, rfl, rfl, rfl⟩

theorem resolveContext_eq_ok {digested : ExecutionContextSpec} {environment : ResolvedEnvironmentPlan} :
    resolveContext digests spec inputs = .ok (digested, environment) ↔
      ∃ canonical, canonicalizeSpec spec inputs.allowUserMode = .ok canonical ∧
        ∃ runtime, runtimeBindings canonical = .ok runtime ∧
        ∃ base, insertRuntimeBindings OrderedMap.empty runtime = .ok base ∧
        ∃ compiled, compileBindings digests canonical inputs base
          (sortBindings digests canonical.environment.bindings) = .ok compiled ∧
        validateCredentials [] canonical.credentials = .ok () ∧
        environmentPlan digests canonical.mode compiled = environment ∧
        ¬maxEnvironmentBytes < environmentBytes environment.environmentVariables ∧
        ∃ sandbox, canonicalSandbox environment.clearInherited environment.environmentVariables canonical.sandbox =
            .ok sandbox ∧
          { canonical with
            environment := { canonical.environment with
              bindings := sortBindings digests canonical.environment.bindings }
            sandbox := sandbox } = digested := by
  unfold resolveContext
  simp only [bind_eq_ok, ite_error_eq_ok, pure_eq_ok, Prod.mk.injEq]
  constructor
  · rintro ⟨canonical, hcanonical, runtime, hruntime, base, hbase, compiled, hcompiled, ⟨⟩, hcredentials, hsize, sandbox,
      hsandbox, hdigested, rfl⟩
    exact ⟨canonical, hcanonical, runtime, hruntime, base, hbase, compiled, hcompiled, hcredentials, rfl, hsize, sandbox,
      hsandbox, hdigested⟩
  · rintro ⟨canonical, hcanonical, runtime, hruntime, base, hbase, compiled, hcompiled, hcredentials, rfl, hsize, sandbox,
      hsandbox, hdigested⟩
    exact ⟨canonical, hcanonical, runtime, hruntime, base, hbase, compiled, hcompiled, (), hcredentials, hsize, sandbox,
      hsandbox, hdigested, rfl⟩

end HyperTerm.Core
