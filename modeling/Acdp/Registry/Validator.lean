import Acdp.Crypto.RawHash
import Acdp.Registry.Server
import Acdp.Types.Revocation
import Acdp.Validation.Content

namespace Acdp.Registry

open Acdp.Types
open Acdp.Crypto (verifyContentHash verifyTypedPublishRequestHash)
open Acdp.Validation

structure Limits where
  maxPayloadBytes : UInt64
  maxEmbeddedBytes : UInt64
  idempotencyKeyTtlSeconds : Option UInt32

structure CapabilitiesDocument extends Server.Capabilities where
  acdpVersion : String
  registryDid : String
  supportedSignatureAlgorithms : List String
  supportedDidMethods : List String
  limits : Limits
  supportsIdempotencyKey : Bool

section VersionGates

def isWellFormedVersion (v : String) : Bool := isDottedTriple v

def parseMajorMinorSaturating (v : String) : ℕ × ℕ :=
  let part (i : ℕ) : ℕ := (Text.parseU64 ((Text.split '.' v)[i]?.getD "0")).getD (2 ^ 64 - 1)
  (part 0, part 1)

def atLeastMinor (minor : ℕ) (v : String) : Bool :=
  let parsed := parseMajorMinorSaturating v
  0 < parsed.1 || minor ≤ parsed.2

def keyRevocationGateApplies (acdpVersion : String) : Bool :=
  !isWellFormedVersion acdpVersion || atLeastMinor 3 acdpVersion

def keyRevocationRetirementGateApplies (acdpVersion : String) : Bool :=
  !isWellFormedVersion acdpVersion || atLeastMinor 5 acdpVersion

def advertises050OrHigher (acdpVersion : String) : Bool :=
  isWellFormedVersion acdpVersion && atLeastMinor 5 acdpVersion

end VersionGates

def keyRevocationInterim : String := "acdp:key-revocation"

def isInterimKeyRevocationForm (ct : ContextType) : Bool := ct == .custom keyRevocationInterim

section Supersession

def typeMismatchMessage (prev : Body) (req : PublishRequest) : String :=
  "ctx_id '" ++ prev.ctxId ++ "' is a key-revocation context and MAY only be superseded by another " ++
    "key-revocation context (RFC-ACDP-0014 §4); the incoming publish from agent_id '" ++ req.agentId ++
    "' has type '" ++ req.contextType.wire ++ "'"

def RevocationTrustClass.debug : RevocationTrustClass → String
  | .producerSigned => "ProducerSigned"
  | .registryAttested => "RegistryAttested"

def checkRevocationSupersession (env : Env) (prev : Body) (req : PublishRequest) (acdpVersion : String) :
    Except AcdpError Unit :=
  if ¬ prev.contextType.isKeyRevocation then .ok ()
  else if ¬ req.contextType.isKeyRevocation then
    if advertises050OrHigher acdpVersion then
      .error (.supersededTarget .revocationTypeMismatch (typeMismatchMessage prev req))
    else .error (.schemaViolation (typeMismatchMessage prev req))
  else match KeyRevocation.fromBody env prev with
    -- a stored predecessor that does not parse leaves no signer class to compare with
    | .error _ => .ok ()
    | .ok prevRevocation => do
      let incoming ← KeyRevocation.fromPublishRequest env req
      if prevRevocation.trustClass = incoming.trustClass then .ok ()
      else .error (.schemaViolation ("ctx_id '" ++ prev.ctxId ++ "' is a key-revocation with signer class " ++
        RevocationTrustClass.debug prevRevocation.trustClass ++
        "; the incoming supersession from agent_id '" ++
        req.agentId ++ "' is a key-revocation with signer class " ++
        RevocationTrustClass.debug incoming.trustClass ++ " — a revocation MAY only be superseded by " ++
        "another key-revocation from the same signer class (RFC-ACDP-0014 §4)"))

end Supersession

section Controller

variable (caps : CapabilitiesDocument) (req : PublishRequest)

def controllerPresent (metadata : Option Json) : Bool :=
  (metadata.bind Json.asObject).any (fun m => (m.lookup "revoked_key_controller").isSome)

def checkRevocationController (revocation : KeyRevocation) : Except AcdpError Unit :=
  if controllerPresent req.metadata ∧ revocation.revokedKeyController ≠ req.agentId ∧
    req.agentId ≠ caps.registryDid
    then .error (.schemaViolation ("metadata.revoked_key_controller '" ++ revocation.revokedKeyController ++
      "' differs from agent_id '" ++ req.agentId ++ "', but agent_id is not this registry's own DID ('" ++
      caps.registryDid ++ "'); a controller different from agent_id is only valid on a §6 " ++
      "registry-attested revocation (RFC-ACDP-0014 §4, §6)"))
  else if ¬ controllerPresent req.metadata ∧ req.agentId = caps.registryDid then
    .error (.schemaViolation ("key-revocation published under this registry's own DID ('" ++
      caps.registryDid ++ "') has no metadata.revoked_key_controller; a registry-attested revocation MUST " ++
      "name the affected producer's DID as the controller (RFC-ACDP-0014 §4, §6)"))
  else .ok ()

def checkRevocationControllerLenient : Except AcdpError Unit :=
  match ((req.metadata.bind Json.asObject).bind (·.lookup "revoked_key_controller")).bind Json.asStr with
  | some raw =>
    match AgentDid.parse raw with
    | .error _ => .ok ()
    | .ok controller =>
      if controller ≠ req.agentId ∧ req.agentId ≠ caps.registryDid then
        .error (.schemaViolation (s!"metadata.revoked_key_controller '{raw}' differs from agent_id '" ++
          req.agentId ++ "', but agent_id is not this registry's own DID ('" ++ caps.registryDid ++
          "'); a controller different from agent_id is only valid on a §6 registry-attested revocation " ++
          "(RFC-ACDP-0014 §5, §6)"))
      else .ok ()
  | none =>
    if req.agentId = caps.registryDid then
      .error (.schemaViolation ("key-revocation published under this registry's own DID ('" ++
        caps.registryDid ++ "') has no metadata.revoked_key_controller; a registry-attested revocation " ++
        "MUST name the affected producer's DID as the controller (RFC-ACDP-0014 §6)"))
    else .ok ()

end Controller

structure ValidatedPublish where
  recomputedHash : ContentHash
deriving DecidableEq

structure PublishValidator where
  caps : CapabilitiesDocument
  ownAuthority : Option String

namespace PublishValidator

variable (env : PublishEnv) (validator : PublishValidator) (req : PublishRequest)

def checkEmbeddedLimit (dr : DataRef) : Except AcdpError Unit :=
  dr.embedded.forM (fun emb => do
    let decoded ← embeddedDecodedBytes env emb
    if validator.caps.limits.maxEmbeddedBytes.toNat < decoded.length then
      .error (.embeddedTooLarge (s!"embedded data reference {decoded.length} bytes exceeds " ++
        toString validator.caps.limits.maxEmbeddedBytes ++ " limit"))
    verifyEmbeddedHash env dr)

def debugStrs (items : List String) : String := "[" ++ ", ".intercalate (items.map env.debugStr) ++ "]"

def describesRequest (v : Json) : Bool :=
  match env.requestDeserialize v with
  | .error _ => false
  | .ok r => Json.valueEq (r.toValue env.toWireEnv) (req.toValue env.toWireEnv)

def checkContentHash (raw : Option Json) : Except AcdpError Unit :=
  match raw.filter (describesRequest env req) with
  | some v => verifyContentHash env.toEnv v req.contentHash
  | none => verifyTypedPublishRequestHash env.toWireEnv req

def checkAlgorithm : Except AcdpError Unit :=
  if req.signature.algorithm ∉ validator.caps.supportedSignatureAlgorithms then
    .error (.schemaViolation ("unsupported algorithm '" ++ req.signature.algorithm ++
    "'; registry supports " ++ debugStrs env validator.caps.supportedSignatureAlgorithms))
  else .ok ()

def agentMethod : String := ":".intercalate ((Text.split ':' req.agentId).take 2)

def checkDidMethod : Except AcdpError Unit :=
  if agentMethod req ∉ validator.caps.supportedDidMethods then
    .error (.keyResolution ("agent_id method '" ++ agentMethod req ++ "' is not in this registry's " ++
      "supported_did_methods " ++ debugStrs env validator.caps.supportedDidMethods))
  else .ok ()

def checkKeyIdBinding : Except AcdpError Unit :=
  match Text.splitOnceChar '#' req.signature.keyId with
  | none => .error (.keyResolution ("key_id '" ++ req.signature.keyId ++ "' has no '#fragment'"))
  | some (didPart, _) =>
    if didPart ≠ req.agentId then
      .error (.keyNotAuthorized (s!"key_id DID '{didPart}' ≠ agent_id '" ++ req.agentId ++ "'"))
    else .ok ()

def checkCrossRegistry : Except AcdpError Unit :=
  match validator.ownAuthority, req.supersedes with
  | some own, some target =>
    let targetAuthority := CtxId.authority target
    if targetAuthority ≠ own then
      .error (.supersededTarget .crossRegistrySupersessionUnsupported
        (s!"supersedes target on '{targetAuthority}' rejected by '{own}'; v0.1.0 only allows same-registry "
        ++ "supersession"))
    else .ok ()
  | _, _ => .ok ()

def checkKeyRevocation : Except AcdpError Unit := do
  let gate := keyRevocationGateApplies validator.caps.acdpVersion
  if isInterimKeyRevocationForm req.contextType ∧
    keyRevocationRetirementGateApplies validator.caps.acdpVersion then
    .error (.schemaViolation ("context_type '" ++ keyRevocationInterim ++
    "' (the interim key-revocation form) " ++
    "is retired for registries advertising acdp_version >= 0.5.0 (RFC-ACDP-0014 §10); publish using the " ++
      "standard 'key-revocation' context_type instead"))
  if isInterimKeyRevocationForm req.contextType ∧ gate then do
    KeyRevocation.checkNotSelfSignedDidKeyLenient env.toEnv req
    checkRevocationControllerLenient validator.caps req
  if req.contextType = .keyRevocation ∧ gate then do
    let revocation ← KeyRevocation.fromPublishRequest env.toEnv req
    checkRevocationController validator.caps req revocation

def validateRegistryLimitsAndCrypto (raw : Option Json) (rawBodyBytes : ℕ) :
    Except AcdpError ValidatedPublish := do
  if validator.caps.limits.maxPayloadBytes.toNat < rawBodyBytes then
    .error (.schemaViolation (s!"payload {rawBodyBytes} bytes exceeds limit " ++
      toString validator.caps.limits.maxPayloadBytes))
  req.dataRefs.forM (checkEmbeddedLimit env validator)
  checkContentHash env req raw
  checkAlgorithm env validator req
  checkDidMethod env validator req
  checkKeyIdBinding req
  checkCrossRegistry validator req
  checkKeyRevocation env validator req
  return { recomputedHash := req.contentHash }

def validatePostSchema (rawBodyBytes : ℕ) : Except AcdpError ValidatedPublish := do
  validatePublishRequest env req
  validateRegistryLimitsAndCrypto env validator req none rawBodyBytes

end PublishValidator

end Acdp.Registry
