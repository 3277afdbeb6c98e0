import Acdp.Crypto.Verify

namespace Acdp.Types

open Acdp.Crypto
open Acdp.Crypto.Merkle (Digest)

def keyAttestationType : String := "acdp:key-attestation"

def keyAttestationSchemaUri : String :=
  "https://schemas.agentcontextdistributionprotocol.io/v0.1.0/acdp-key-attestation.schema.json"

def legacyKeyAttestationSchemaUri : String :=
  "https://schemas.acdp.io/v0.1.0/acdp-key-attestation.schema.json"

def isAcceptedKeyAttestationSchemaUri (uri : String) : Bool :=
  uri == keyAttestationSchemaUri || uri == legacyKeyAttestationSchemaUri

def attestationVersion : String := "acdp-key-attestation/1"

def keylessServiceType : String := "AcdpKeylessSigning"

def maxWindowSeconds : ℤ := 3600

def invalidAttestation (msg : String) : AcdpError := .schemaViolation ("key attestation: " ++ msg)

def keylessKeyId (controller keyFingerprint : String) : Except AcdpError String :=
  match (Text.stripPrefix "sha256:" keyFingerprint).filter isLowerHex64 with
  | none => .error (invalidAttestation s!"'{keyFingerprint}' is not a sha256 fingerprint")
  | some hex => .ok (controller ++ "#" ++ keylessFragmentPrefix ++ hex)

def isDidWeb (s : String) : Bool :=
  (Text.stripPrefix "did:web:" s).any (fun rest => rest ≠ "" && rest.toList.all isDidIdChar)

def atLeast05 (v : String) : Bool :=
  match (Text.split '.' v).filterMap Text.parseU64 with
  | [major, minor, _] => 0 < major || 5 ≤ minor
  | _ => false

inductive KeyBytes where
  | ed25519 (key : Digest)
  | p256 (sec1 : List UInt8)
deriving DecidableEq

def b64u32 (env : Env) (field s : String) : Except AcdpError Digest :=
  let bad := invalidAttestation s!"public_key_jwk.{field} is not 32 base64url bytes"
  if s.utf8ByteSize ≠ 43 then .error bad
  else match (env.base64UrlDecode s).toOption.bind (sizedBytes 32) with
    | some bytes => .ok bytes
    | none => .error bad

namespace Jwk

def keyBytes (env : Env) (jwk : Jwk) : Except AcdpError KeyBytes :=
  if jwk.kty = "OKP" ∧ jwk.crv = "Ed25519" ∧ jwk.y = none then do
    return .ed25519 (← b64u32 env "x" jwk.x)
  else match jwk.y with
    | some y =>
      if jwk.kty = "EC" ∧ jwk.crv = "P-256" then do
        let xs ← b64u32 env "x" jwk.x
        let ys ← b64u32 env "y" y
        let sec1 := 4 :: xs.toList ++ ys.toList
        match env.p256Compressed sec1 with
        | .error e => .error (invalidAttestation s!"public_key_jwk is not a P-256 point: {e}")
        | .ok _ => return .p256 sec1
      else .error malformed
    | none => .error malformed
where
  malformed : AcdpError := invalidAttestation ("public_key_jwk must be \x7bkty: OKP, crv: Ed25519, x\x7d " ++
    "or \x7bkty: EC, crv: P-256, x, y\x7d")

def algorithm (env : Env) (jwk : Jwk) : Except AcdpError String := do
  match ← jwk.keyBytes env with
  | .ed25519 _ => return "ed25519"
  | .p256 _ => return "ecdsa-p256"

def fingerprint (env : Env) (jwk : Jwk) : Except AcdpError String := do
  match ← jwk.keyBytes env with
  | .ed25519 key => return fingerprintEd25519 env key
  | .p256 sec1 => fingerprintP256Sec1 env sec1

def verify (env : Env) (jwk : Jwk) (algorithm signature message : String) : Except AcdpError Unit := do
  match ← jwk.keyBytes env, algorithm with
  | .ed25519 key, "ed25519" => env.verifyEd25519 key signature message
  | .p256 sec1, "ecdsa-p256" => env.verifyEcdsaP256 sec1 signature message
  | _, _ => .error (.invalidSignature
      s!"signature algorithm '{algorithm}' does not match the attested key type")

end Jwk

namespace WorkloadIdentity

def isOidcIssuer (issuer : String) : Bool :=
  issuer.utf8ByteSize ≤ 512 && (Text.stripPrefix "https://" issuer).any (fun r =>
    r ≠ "" && !r.toList.any (fun c => Text.isWhitespace c || c == '#' || c == '?'))

def checkOidc (issuer subject : String) : Except AcdpError Unit :=
  if ¬ isOidcIssuer issuer then
    .error (invalidAttestation s!"identity.issuer '{issuer}' is not an https issuer URI")
  else if subject = "" ∨ 512 < subject.utf8ByteSize then
    .error (invalidAttestation "identity.subject must be 1 to 512 characters")
  else .ok ()

def isSpiffeDomainChar (c : Char) : Bool :=
  Text.isAsciiLowercase c || Text.isAsciiDigit c || c == '.' || c == '_' || c == '-'

def isSpiffePathChar (c : Char) : Bool :=
  Text.isAsciiAlphanumeric c || "._~%!$&'()*+,;=:@-".toList.contains c

def spiffeTrustDomain (subject : String) : Option String := do
  let rest ← Text.stripPrefix "spiffe://" subject
  match Text.split '/' rest with
  | [] => none
  | domain :: segments =>
    guard (domain ≠ "" && domain.toList.all isSpiffeDomainChar &&
      segments.all (fun seg => seg ≠ "" && seg.toList.all isSpiffePathChar) &&
      subject.utf8ByteSize ≤ 2048)
    return domain

def validate : WorkloadIdentity → Except AcdpError Unit
  | .oidc issuer subject => checkOidc issuer subject
  | .spiffe subject =>
    match spiffeTrustDomain subject with
    | some _ => .ok ()
    | none => .error (invalidAttestation s!"identity.subject '{subject}' is not a SPIFFE ID")

end WorkloadIdentity

structure ListedIdentity where
  identity : WorkloadIdentity
  orgWide : Bool
deriving DecidableEq

def listedEntry (env : Env) (entry : Json) : Option ListedIdentity := do
  let members ← entry.asObject
  let orgWide ← match members.lookup "org_wide" with
    | none => some false
    | some v => v.asBool
  let identity ← (env.identityDeserialize (.obj (removeKeys ["org_wide"] members))).toOption
  let _ ← identity.validate.toOption
  return { identity := identity, orgWide := orgWide }

def listedIdentities (env : Env) (doc : DidDocument) : List ListedIdentity :=
  match doc.services.filter (fun s => (s.get "type").bind Json.asStr == some keylessServiceType) with
  | [service] =>
    match ((service.get "serviceEndpoint").bind (·.get "identities")).bind Json.asArray with
    | some entries => entries.filterMap (listedEntry env)
    | none => []
  | _ => []

namespace KeyAttestation

def validate (env : Env) (att : KeyAttestation) : Except AcdpError Unit := do
  if att.attestationVersion ≠ Types.attestationVersion then
    .error (invalidAttestation ("attestation_version '" ++ att.attestationVersion ++ "' is not '" ++
      Types.attestationVersion ++ "'"))
  if ¬ isDidWeb att.controller then
    .error (invalidAttestation ("controller '" ++ att.controller ++ "' is not a did:web DID"))
  att.identity.validate
  if (← att.publicKeyJwk.algorithm env) ≠ att.algorithm then
    .error (invalidAttestation ("algorithm '" ++ att.algorithm ++
      "' does not match the public_key_jwk key type"))
  if ¬ isSha256Digest att.keyFingerprint then
    .error (invalidAttestation "key_fingerprint is not the fingerprint of public_key_jwk")
  if (← att.publicKeyJwk.fingerprint env) ≠ att.keyFingerprint then
    .error (invalidAttestation "key_fingerprint is not the fingerprint of public_key_jwk")
  if att.keyId ≠ (← keylessKeyId att.controller att.keyFingerprint) then
    .error (invalidAttestation "key_id is not <controller>#acdp-kl-<fingerprint hex>")
  let span := (att.notAfter.nanos - att.notBefore.nanos).tdiv 1000000
  if span ≤ 0 ∨ maxWindowSeconds * 1000 < span then
    .error (invalidAttestation "the window must be non-empty and at most 3600 seconds")
  if ¬ isSha256Digest att.tokenHash then
    .error (invalidAttestation "token_hash is not a sha256 digest")

def fromMetadata (env : Env) (metadata : Json) : Except AcdpError KeyAttestation :=
  match env.attestationDeserialize metadata with
  | .error e => .error (invalidAttestation e)
  | .ok att => do
    att.validate env
    return att

def fromBody (env : Env) (body : Body) : Except AcdpError KeyAttestation := do
  if body.contextType ≠ .custom keyAttestationType then
    .error (invalidAttestation ("type is not " ++ keyAttestationType))
  if body.visibility ≠ .public then
    .error (invalidAttestation "an attestation must be public")
  if body.version ≠ 1 ∨ body.supersedes ≠ none ∨ body.dataRefs ≠ [] ∨ body.derivedFrom ≠ [] then
    .error (invalidAttestation
      "an attestation is version 1 with no supersedes, data_refs or derived_from")
  let registry := authorityToDidWeb (CtxId.authority body.ctxId)
  if body.agentId ≠ registry then
    .error (invalidAttestation ("agent_id '" ++ body.agentId ++ "' is not the attesting registry '" ++
      registry ++ "' of its ctx_id"))
  if ¬ body.schemaUri.any isAcceptedKeyAttestationSchemaUri then
    .error (invalidAttestation ("schema_uri is not " ++ keyAttestationSchemaUri))
  if ¬ body.acdpVersion.any atLeast05 then
    .error (invalidAttestation "acdp_version must be at least 0.5.0")
  match body.metadata with
  | none => .error (invalidAttestation "metadata is missing")
  | some metadata => fromMetadata env metadata

def binds (att : KeyAttestation) (agentId : AgentDid) (signature : Signature) : Bool :=
  agentId == att.controller && signature.keyId == att.keyId && signature.algorithm == att.algorithm

def windowContains (att : KeyAttestation) (t : DateTime) : Bool := att.notBefore ≤ t && t < att.notAfter

end KeyAttestation

def KeyAttestationRef.validate (r : KeyAttestationRef) : Except AcdpError Unit := do
  let _ ← CtxId.parse r.ctxId
  let _ ← ContentHash.parse r.contentHash

def checkKeyAttestationPresence (keyId : String) (present : Bool) : Except AcdpError Unit :=
  if present ∧ ¬ isKeylessKeyId keyId then
    .error (.schemaViolation
    (s!"key_attestation is present but signature.key_id '{keyId}' is not a keyless " ++
      "key id (RFC-ACDP-0021 §6.2)"))
  else .ok ()

def Body.keyAttestation (env : Env) (body : Body) : Except AcdpError (Option KeyAttestationRef) :=
  match body.extensions.lookup keyAttestationField with
  | none => .ok none
  | some raw =>
    match env.attestationRefDeserialize raw with
    | .error e => .error (.schemaViolation s!"key_attestation: {e}")
    | .ok r => do
      r.validate
      return some r

end Acdp.Types
