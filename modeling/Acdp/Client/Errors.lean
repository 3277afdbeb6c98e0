import Acdp.Types.Records

namespace Acdp.Client

open Acdp.Types

inductive UnknownReason where
  | truncated
  | unanswerable
  | transient
  | unverifiableCandidate
deriving DecidableEq, Repr

inductive RevocationSource where
  | known
  | discovered (authority : String)
  | cached (origin : String)
deriving DecidableEq, Repr

structure SourcedRevocation where
  revokedKeyFingerprint : String
  compromisedSince : DateTime
  ctxId : Option CtxId
  issuer : AgentDid
  revokedKeyController : AgentDid
  trustClass : RevocationTrustClass
  source : RevocationSource
deriving DecidableEq, Repr

inductive RevocationEffect where
  | preCompromise
  | revoked
  | unplaceable
deriving DecidableEq, Repr

structure RevocationRefusal where
  effect : RevocationEffect
  signingKeyFingerprint : String
  boundary : DateTime
  revocation : SourcedRevocation
  placement : Option DateTime
  detail : String
deriving DecidableEq, Repr

inductive ClientError where
  | acdp (e : AcdpError)
  | contextIdMismatch (requested served : String)
  | deadlineExceeded (message : String)
  | incompleteLineage (lineageId : String) (ctxId : Option String)
  | searchTruncated (message : String)
  | revocationDiscoveryBudgetExceeded (message : String)
  | revocationCandidateUnverifiable (message : String)
  | revocationUnknown (reason : UnknownReason) (source : ClientError) (detail : String)
  | keyRevoked (refusal : RevocationRefusal)
  | rateLimited (message : String)
  | crossRegistryResolutionFailed (message : String)
  | http (message : String)
deriving DecidableEq, Repr

def ClientError.isTransient : ClientError → Bool
  | .revocationUnknown reason _ _ => reason == .transient
  | .acdp (.keyResolutionUnreachable _) => true
  | .acdp (.registryInternal _) => true
  | .rateLimited _ => true
  | .crossRegistryResolutionFailed _ => true
  | .http _ => true
  | .deadlineExceeded _ => true
  | _ => false

end Acdp.Client
