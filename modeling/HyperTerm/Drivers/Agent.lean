import HyperTerm.Protocol.Block
import HyperTerm.Protocol.Json

/-!
# What the drivers of Agents have in common

The requests of a provider, under the identifiers it chooses, the effects they propose, and the authorizations that
answer them.
-/

namespace HyperTerm.Drivers
open HyperTerm.Protocol

inductive StructuredAgentProtocol where
  | acp
  | codexAppServerV2
  | claudeStreamJson
  | mcp20251125
  deriving DecidableEq

/-- The identifier that its sender gives to a request. -/
inductive ExternalRequestId where
  | string (s : String)
  | signed (n : { n : Number // n.isI64 = true })
  | unsigned (n : { n : Number // n.isU64 = true })
  deriving DecidableEq

inductive AgentEffectKind where
  | shell
  | workspaceEdit
  | tool
  | computerUse
  | opaqueEffect
  deriving DecidableEq

structure AgentEffectProposal where
  driverId : Uuid
  protocol : StructuredAgentProtocol
  requestId : ExternalRequestId
  method : String
  kind : AgentEffectKind
  summary : String
  requiredCapabilities : List String
  payloadSha256 : String
  threadId : Option String
  turnId : Option String
  itemId : Option String
  deriving DecidableEq

structure AgentEffectAuthorization where
  operationId : OperationId
  operationRevision : Nat
  proposalSha256 : String
  decision : PermissionDecision
  deriving DecidableEq

end HyperTerm.Drivers
