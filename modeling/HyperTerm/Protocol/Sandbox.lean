import HyperTerm.Protocol.Ids

/-!
# Sandbox, execution-context and local-MCP evidence

The payloads that the journal carries for sandboxed and MCP operations. The reducer and the
projector pass them through; the daemon compares some of them.

A path is the string it is written as, a `BTreeMap` the list of its entries in key order, and a
digest type of the source the string it wraps.
-/

namespace HyperTerm.Protocol

abbrev PathBuf := String

/-- The entries of a `BTreeMap<String, String>` in key order. -/
abbrev StringMap := List (String × String)

inductive Actor where
  | user
  | agent (adapter : String)
  | policy
  | system
  deriving DecidableEq, Countable

inductive RiskClass where
  | readOnly
  | workspaceWrite
  | externalEffect
  | destructive
  deriving DecidableEq, Countable

/-! ## Sandbox profiles and receipts -/

inductive SandboxEnforcement where
  | native
  | isolatedTask
  deriving DecidableEq, Countable

inductive SandboxBackendKind where
  | macOsSeatbelt
  | limaVm
  | linuxBubblewrap
  | windowsRestrictedToken
  | testOnlyUnenforced
  deriving DecidableEq, Countable

inductive SandboxPathAccess where
  | read
  | write
  | deny
  deriving DecidableEq, Countable

structure SandboxPathRule where
  path : PathBuf
  access : SandboxPathAccess
  deriving DecidableEq, Countable

inductive SandboxNetworkPolicy where
  | offline
  | proxyOnly (proxyUrl : String) (allowedHosts : List String) (allowedUnixSockets : List PathBuf)
  deriving DecidableEq, Countable

structure SandboxEnvironmentPolicy where
  clearInherited : Bool
  environmentVariables : StringMap
  deriving DecidableEq, Countable

structure SandboxProcessPolicy where
  allowChildProcesses : Bool
  allowAnyExecutable : Bool
  allowedExecutables : List PathBuf
  deriving DecidableEq, Countable

structure SandboxResourceLimits where
  wallTimeMs : Option Nat
  maxProcesses : Option Nat
  maxOutputBytes : Option Nat
  deriving DecidableEq, Countable

inductive SandboxLifetime where
  | oneOperation
  | oneTask
  deriving DecidableEq, Countable

structure SandboxProfile where
  enforcement : SandboxEnforcement
  filesystem : List SandboxPathRule
  network : SandboxNetworkPolicy
  environment : SandboxEnvironmentPolicy
  macosMachServices : List String
  process : SandboxProcessPolicy
  resources : SandboxResourceLimits
  lifetime : SandboxLifetime
  deriving DecidableEq, Countable

structure CompiledSandboxProfile where
  backend : SandboxBackendKind
  enforced : Bool
  profile : SandboxProfile
  profileDigest : String
  actionDigest : String
  deriving DecidableEq, Countable

inductive SandboxOutcome where
  | succeeded
  | failed
  | violated
  | denied
  | unknown
  deriving DecidableEq, Countable

structure SandboxViolation where
  code : String
  message : String
  resource : Option String
  occurredAtMs : Nat
  deriving DecidableEq, Countable

structure SandboxReceipt where
  backend : SandboxBackendKind
  enforced : Bool
  profileDigest : String
  actionDigest : String
  startedAtMs : Nat
  finishedAtMs : Nat
  outcome : SandboxOutcome
  exitCode : Option Nat
  violations : List SandboxViolation
  deriving DecidableEq, Countable

/-! ## Execution-context receipts -/

inductive ExecutionMode where
  | hermetic
  | project
  | user
  deriving DecidableEq, Countable

inductive EnvironmentBindingOrigin where
  | builtIn
  | runtimeProfile
  | workspace
  | invocation
  | authority
  | credentialBroker
  deriving DecidableEq, Countable

inductive EnvironmentClass where
  | runtimeSemantic
  | shellStartup
  | loaderInjection
  | networkControl
  | authorityHandle
  | credential
  | toolConfiguration
  | observability
  deriving DecidableEq, Countable

inductive BindingScope where
  | process
  | processTree
  | operation
  | task
  | server
  deriving DecidableEq, Countable

inductive BindingLifetime where
  | launch
  | operation
  | task
  | server
  deriving DecidableEq, Countable

structure SecretReference where
  providerId : String
  secretId : String
  version : Option String
  deriving DecidableEq, Countable

structure CredentialRequirement where
  bindingId : String
  reference : SecretReference
  targetName : String
  audience : String
  scope : BindingScope
  lifetime : BindingLifetime
  deriving DecidableEq, Countable

structure ContextBindingReceipt where
  targetName : String
  bindingClass : EnvironmentClass
  origin : EnvironmentBindingOrigin
  scope : BindingScope
  lifetime : BindingLifetime
  sourceKind : String
  deriving DecidableEq, Countable

structure ContextReceipt where
  schemaVersion : Nat
  contextId : String
  contextRevision : Nat
  mode : ExecutionMode
  contextDigest : String
  environmentDigest : String
  clearInherited : Bool
  bindings : List ContextBindingReceipt
  credentialBindings : List CredentialRequirement
  deriving DecidableEq, Countable

structure AgentExecutionContextReceiptSet where
  providerId : String
  protocol : String
  threadId : String
  receipts : List ContextReceipt
  deriving DecidableEq, Countable

/-! ## Local and brokered MCP -/

inductive LocalMcpServerLifecycle where
  | oneTask
  deriving DecidableEq, Countable

inductive LocalMcpCredentialScope where
  | serverLifetime
  | splitPrivilege
  deriving DecidableEq, Countable

structure LocalMcpServerLaunch where
  schemaVersion : Nat
  serverId : String
  executable : PathBuf
  executableSha256 : String
  argumentsDigest : String
  argumentCount : Nat
  workingDirectory : PathBuf
  contextDigest : String
  sandboxProfileDigest : String
  rootsSnapshotSha256 : Option String
  lifecycle : LocalMcpServerLifecycle
  credentialScope : LocalMcpCredentialScope
  runtimeIdentityDigest : String
  deriving DecidableEq, Countable

structure LocalMcpToolContractReceipt where
  name : String
  inputSchemaSha256 : String
  outputSchemaSha256 : Option String
  contractDigest : String
  deriving DecidableEq, Countable

structure LocalMcpServerRuntimeReceipt where
  schemaVersion : Nat
  launch : LocalMcpServerLaunch
  negotiatedProtocolVersion : String
  serverName : String
  serverVersion : String
  enforcedSandboxProfileDigest : String
  capabilitiesDigest : String
  catalogDigest : String
  runtimeIdentityDigest : String
  tools : List LocalMcpToolContractReceipt
  credentialScope : LocalMcpCredentialScope
  perCallIsolation : Bool
  deriving DecidableEq, Countable

structure LocalMcpToolCall where
  schemaVersion : Nat
  serverId : String
  runtimeIdentityDigest : String
  catalogDigest : String
  toolName : String
  toolContractDigest : String
  argumentsDigest : String
  deriving DecidableEq, Countable

structure LocalMcpToolCallReceipt where
  schemaVersion : Nat
  call : LocalMcpToolCall
  succeeded : Bool
  resultDigest : String
  contentCount : Nat
  hasStructuredContent : Bool
  deriving DecidableEq, Countable

structure BrokeredMcpToolCall where
  schemaVersion : Nat
  serverId : String
  toolName : String
  canonicalArgumentsPreview : String
  argumentsBytes : Nat
  argumentsTruncated : Bool
  argumentsDigest : String
  proposalDigest : String
  deriving DecidableEq, Countable

end HyperTerm.Protocol
