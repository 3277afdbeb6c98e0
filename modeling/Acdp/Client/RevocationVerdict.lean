import Acdp.Client.Errors
import Acdp.Types.Serialize
import Mathlib.Data.List.MinMax
import Mathlib.Data.Prod.Lex

namespace Acdp.Client

open Acdp.Types

inductive ReceiptKeyStatus where
  | current
  | historical
deriving DecidableEq, Repr

inductive DiscoveryFailurePolicy where
  | failClosed
  | proceedWithKnown
deriving DecidableEq, Repr

structure DiscoveryOutcome where
  producerSigned : ℕ
  registryAttested : Option ℕ
deriving DecidableEq, Repr

structure Unevaluated where
  fingerprint : String
  detail : String
deriving DecidableEq, Repr

inductive RevocationVerdict where
  | revoked (effect : RevocationEffect) (boundary : DateTime) (revocation : SourcedRevocation)
      (placement : Option DateTime)
  | notRevoked (complete registryAttestedChecked : Bool) (observedAt : Option DateTime)
  | unknown (reason : UnknownReason) (detail : String)
deriving DecidableEq, Repr

def RevocationVerdict.isRefusal : RevocationVerdict → Bool
  | .revoked .revoked _ _ _ => true
  | .revoked .unplaceable _ _ _ => true
  | _ => false

structure RevocationAssessment where
  verdict : RevocationVerdict
  hints : List SourcedRevocation
  discovery : Option (Except ClientError DiscoveryOutcome)
  preCompromise : Bool
  onFailure : DiscoveryFailurePolicy

structure Gathered where
  inScope : List SourcedRevocation
  hints : List SourcedRevocation
  discovery : Option (Except ClientError DiscoveryOutcome)
  complete : Bool
  registryAttestedChecked : Bool
  observedAt : Option DateTime
  onFailure : DiscoveryFailurePolicy
  unevaluated : List Unevaluated

def Gathered.hasInScope (g : Gathered) : Bool := !g.inScope.isEmpty || !g.unevaluated.isEmpty

def sourced (r : KeyRevocation) (source : RevocationSource) : SourcedRevocation where
  revokedKeyFingerprint := r.revokedKeyFingerprint
  compromisedSince := r.compromisedSince
  ctxId := r.ctxId
  issuer := r.publisher
  revokedKeyController := r.revokedKeyController
  trustClass := r.trustClass
  source := source

def SourcedRevocation.speaksFor (r : SourcedRevocation) (producer : AgentDid) : Bool :=
  match r.trustClass with
  | .producerSigned => r.issuer == producer
  | .registryAttested => r.revokedKeyController == producer

def scopeStep (agentId : AgentDid) (out : List SourcedRevocation × List SourcedRevocation)
    (r : SourcedRevocation) : List SourcedRevocation × List SourcedRevocation :=
  if r.speaksFor agentId then (out.1 ++ [r], out.2)
  else if r ∈ out.2 then out
  else (out.1, out.2 ++ [r])

def scope (all : List SourcedRevocation) (agentId : AgentDid) :
    List SourcedRevocation × List SourcedRevocation :=
  all.foldl (scopeStep agentId) ([], [])

def sourceRank : RevocationSource → ℕ
  | .known => 0
  | .discovered _ => 1
  | .cached _ => 2

def boundaryRank (r : SourcedRevocation) : DateTime ×ₗ Bool ×ₗ ℕ :=
  toLex (r.compromisedSince, toLex (r.trustClass != .producerSigned, sourceRank r.source))

def effectAt (receiptPlacement : Option (DateTime × ReceiptKeyStatus)) (acceptHistoricalReceiptKey : Bool)
    (boundary : DateTime) : RevocationEffect × Option DateTime :=
  match receiptPlacement with
  | some (t, status) =>
    if status = .historical ∧ ¬ acceptHistoricalReceiptKey then (.unplaceable, some t)
    else if t < boundary then (.preCompromise, some t)
    else (.revoked, some t)
  | none => (.unplaceable, none)

def namedVerdict (receiptPlacement : Option (DateTime × ReceiptKeyStatus)) (acceptHistoricalReceiptKey : Bool)
    (revocation : SourcedRevocation) : RevocationVerdict :=
  let placed := effectAt receiptPlacement acceptHistoricalReceiptKey revocation.compromisedSince
  .revoked placed.1 revocation.compromisedSince revocation placed.2

def discoveryFor (gathered : Gathered) (fingerprint : Option String) :
    Option (Except ClientError DiscoveryOutcome) :=
  match gathered.discovery with
  | some (.error e) => some (.error e)
  | discovery =>
    match fingerprint.bind (fun fp => gathered.unevaluated.find? (fun u => u.fingerprint == fp)) with
    | some u => some (.error (.revocationUnknown .unverifiableCandidate
        (.revocationCandidateUnverifiable u.detail) u.detail))
    | none => discovery

def unknownVerdict : Option (Except ClientError DiscoveryOutcome) → Option RevocationVerdict
  | some (.error (.revocationUnknown reason _ detail)) => some (.unknown reason detail)
  | _ => none

def decide (gathered : Gathered) (signingKeyFingerprint : Option String)
    (receiptPlacement : Option (DateTime × ReceiptKeyStatus)) (acceptHistoricalReceiptKey : Bool) :
    RevocationAssessment :=
  let fixing := signingKeyFingerprint.bind (fun fp =>
    (gathered.inScope.filter (fun r => r.revokedKeyFingerprint == fp)).argmin boundaryRank)
  let named := fixing.map (namedVerdict receiptPlacement acceptHistoricalReceiptKey)
  let discovery := discoveryFor gathered signingKeyFingerprint
  { verdict :=
      match named, unknownVerdict discovery with
      | some v, some u => if v.isRefusal then v else u
      | some v, none => v
      | none, some u => u
      | none, none => .notRevoked gathered.complete gathered.registryAttestedChecked gathered.observedAt
    hints := gathered.hints
    discovery := discovery
    preCompromise := named.any (fun v => v matches .revoked .preCompromise _ _ _)
    onFailure := gathered.onFailure }

end Acdp.Client
