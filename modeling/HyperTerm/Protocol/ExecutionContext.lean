import HyperTerm.Protocol.Sandbox

/-!
# Execution contexts

What a caller asks for before a program is started, and what that is resolved to. The receipt of a resolved context and
the types that the journal carries are in `Protocol/Sandbox`.
-/

namespace HyperTerm.Protocol

def executionContextSchemaVersion : Nat := 1

inductive OverridePolicy where
  | deny
  | replaceSameClass
  deriving DecidableEq

inductive CollisionPolicy where
  | deny
  | explicitOverride
  deriving DecidableEq

inductive DerivedBinding where
  | workspaceRoot
  | workingDirectory
  | runtimeHome
  | runtimeTemp
  deriving DecidableEq

inductive EnvironmentSource where
  | literal (value : String)
  | hostVariable (name : String)
  | envFileKey (path : PathBuf) (key : String) (expectedSha256 : Option String)
  | secretReference (reference : SecretReference)
  | derived (binding : DerivedBinding)
  deriving DecidableEq

structure EnvironmentBindingSpec where
  targetName : String
  source : EnvironmentSource
  bindingClass : EnvironmentClass
  origin : EnvironmentBindingOrigin
  scope : BindingScope
  lifetime : BindingLifetime
  overridePolicy : OverridePolicy
  deriving DecidableEq

structure EnvironmentPlan where
  bindings : List EnvironmentBindingSpec
  collisionPolicy : CollisionPolicy
  deriving DecidableEq

structure WorkspaceContextSpec where
  root : PathBuf
  workingDirectory : PathBuf
  runtimeHome : PathBuf
  runtimeTemp : PathBuf
  deriving DecidableEq

structure RuntimeEnvironmentSpec where
  path : List PathBuf
  locale : String
  timezone : String
  terminal : String
  deriving DecidableEq

structure ShellContextSpec where
  executable : PathBuf
  invocation : String
  startupFiles : Bool
  pty : Bool
  deriving DecidableEq

structure ExecutionContextSpec where
  schemaVersion : Nat
  contextId : String
  contextRevision : Nat
  mode : ExecutionMode
  workspace : WorkspaceContextSpec
  runtime : RuntimeEnvironmentSpec
  shell : Option ShellContextSpec
  environment : EnvironmentPlan
  credentials : List CredentialRequirement
  sandbox : Option SandboxProfile
  deriving DecidableEq

structure ResolvedEnvironmentBinding where
  targetName : String
  bindingClass : EnvironmentClass
  origin : EnvironmentBindingOrigin
  scope : BindingScope
  lifetime : BindingLifetime
  sourceKind : String
  deriving DecidableEq

structure ResolvedEnvironmentPlan where
  clearInherited : Bool
  environmentVariables : StringMap
  bindings : List ResolvedEnvironmentBinding
  digest : String
  deriving DecidableEq

structure ResolvedExecutionContext where
  schemaVersion : Nat
  contextId : String
  contextRevision : Nat
  mode : ExecutionMode
  contextDigest : String
  workspace : WorkspaceContextSpec
  runtime : RuntimeEnvironmentSpec
  shell : Option ShellContextSpec
  environment : ResolvedEnvironmentPlan
  credentialBindings : List CredentialRequirement
  requestedSandbox : Option SandboxProfile
  deriving DecidableEq

end HyperTerm.Protocol
