import Acdp.Crypto.Envelope
import Acdp.Registry.Validator

namespace Acdp.Registry.Server

open Acdp.Types
open Acdp.Crypto
open Acdp.Crypto.Merkle (Digest)
open Acdp.Registry.Store (Inner PublishCommit PublishCommitOutcome PendingIdempotencyCommit)
open Acdp.Validation (PublishEnv)

structure PublishSigner extends ReceiptSigner where
  signReceipt : RegistryReceipt → Except AcdpError Json

def PublishSigner.mint (signer : PublishSigner) (ctxId : CtxId) (lineageId : LineageId)
    (originRegistry : String) (createdAt : DateTime) (contentHash : ContentHash)
    (producerKeyFingerprint : String) : Except AcdpError Json :=
  signer.signReceipt {
    registryDid := signer.registryDid
    ctxId := ctxId
    lineageId := lineageId
    originRegistry := originRegistry
    createdAt := createdAt.truncMs
    contentHash := contentHash
    keyFingerprint := producerKeyFingerprint
    signature := ⟨signer.algorithm, signer.keyId, ""⟩ }

/-- The fields of `RegistryServer` that its publish methods read. -/
structure PublishServer where
  caps : CapabilitiesDocument
  authority : String
  receiptSigner : Option PublishSigner

structure Proven where
  req : PublishRequest
  fingerprint : Option String
  recomputedHash : ContentHash
  authority : String

def fingerprintPinnedKey (env : PublishEnv) (publicKeyB64 algorithm : String) : Except AcdpError String :=
  match env.base64Decode publicKeyB64 with
  | .error e => .error (.keyResolution s!"pinned key is not valid base64: {e}")
  | .ok raw =>
    if algorithm = "ed25519" then
      match sizedBytes 32 raw with
      | none => .error (.keyResolution s!"pinned ed25519 key must be 32 bytes, got {raw.length}")
      | some key => .ok (fingerprintEd25519 env.toEnv key)
    else if algorithm = "ecdsa-p256" then fingerprintP256Sec1 env.toEnv raw
    else .error (.unsupportedAlgorithm s!"cannot fingerprint a pinned key for algorithm '{algorithm}'")

namespace PublishServer

variable (env : PublishEnv) (server : PublishServer) (req : PublishRequest)

def validate (rateLimit : Except AcdpError Unit) : Except AcdpError ValidatedPublish := do
  rateLimit
  PublishValidator.validatePostSchema env ⟨server.caps, some server.authority⟩ req
    (env.toVecLen (req.toValue env.toWireEnv))

def revocationCheckNeeded : Bool :=
  req.contextType.isKeyRevocation && keyRevocationGateApplies server.caps.acdpVersion

def fingerprintIf (needed : Bool) (fingerprint : Except AcdpError String) : Except AcdpError
    (Option String) :=
  if needed then fingerprint.map some else .ok none

def proveFingerprint (fingerprint : Except AcdpError String) : Except AcdpError (Option String) := do
  let fp ← fingerprintIf (server.receiptSigner.isSome || server.revocationCheckNeeded req) fingerprint
  if server.revocationCheckNeeded req then
    match fp with
    | none =>
      .error (.registryInternal ("key-revocation fingerprint missing despite revocation_check_needed — " ++
        "this is an internal invariant violation, not a caller error"))
    | some fp => KeyRevocation.checkNotSelfSignedLenient req fp
  return fp

def provePublishIdentity (rateLimit : Except AcdpError Unit) (verifying fingerprinting : WebResolver) :
    Except AcdpError Proven := do
  let validated ← server.validate env req rateLimit
  verifyPublishRequestSignature env.toEnv req verifying
  let fp ← server.proveFingerprint req
    (fingerprintForKeyId env.toEnv req.signature.keyId req.signature.algorithm fingerprinting)
  return ⟨req, fp, validated.recomputedHash, server.authority⟩

def provePublishIdentityDidKey (rateLimit : Except AcdpError Unit) : Except AcdpError Proven := do
  let validated ← server.validate env req rateLimit
  verifyPublishRequestSignatureOffline env.toEnv req
  let fp ← fingerprintIf server.receiptSigner.isSome
    (resolveDidKey env.toEnv req.agentId >>= fingerprintDidKeyMaterial env.toEnv)
  return ⟨req, fp, validated.recomputedHash, server.authority⟩

def provePublishIdentityPinned (rateLimit : Except AcdpError Unit) (publicKeyB64 algorithm : String) :
    Except AcdpError Proven := do
  let validated ← server.validate env req rateLimit
  let fp ← server.proveFingerprint req (fingerprintPinnedKey env publicKeyB64 algorithm)
  return ⟨req, fp, validated.recomputedHash, server.authority⟩

def pendingIdempotency (idempotencyKey : Option String) : Option PendingIdempotencyCommit :=
  if server.caps.supportsIdempotencyKey then
    idempotencyKey.map (fun key =>
      ⟨key, (server.caps.limits.idempotencyKeyTtlSeconds.getD 86400).toNat * 1000000000⟩)
  else none

def minter (producerKeyFingerprint : Option String) : Option (Body → Except AcdpError Json) :=
  match server.receiptSigner, producerKeyFingerprint with
  | some signer, some fp => some (fun body =>
      signer.mint body.ctxId body.lineageId body.originRegistry body.createdAt body.contentHash fp)
  | _, _ => none

def admissionHook : Option (Body → Except AcdpError Unit) :=
  if keyRevocationGateApplies server.caps.acdpVersion ∧ req.supersedes.isSome then
    some (fun prev => checkRevocationSupersession env.toEnv prev req server.caps.acdpVersion)
  else none

def publishCommit (idempotencyKey tenant producerKeyFingerprint : Option String) : PublishCommit where
  req := req
  authority := server.authority
  idempotency := server.pendingIdempotency idempotencyKey
  tenant := tenant
  receiptMinter := server.minter producerKeyFingerprint
  predecessorAdmission := server.admissionHook env req

def requireReceipt (outcome : PublishCommitOutcome) : Except AcdpError PublishCommitOutcome :=
  match outcome with
  | .inserted response =>
    if server.receiptSigner.isSome ∧ response.registryReceipt.isNone then
      .error (.registryInternal ("receipt signer is configured but the store returned no receipt — the " ++
        "RegistryStore implementation must invoke PublishCommit::receipt_minter inside its commit " ++
        "(RFC-ACDP-0010 §7: no degraded mode)"))
    else .ok outcome
  | .idempotentReplay _ => .ok outcome

def commitViaStore (idempotencyKey tenant producerKeyFingerprint : Option String) (now : DateTime)
    (uuid : String) (s : Inner) : Except AcdpError PublishCommitOutcome × Inner :=
  let result := Store.commitPublish env.sha256
    (server.publishCommit env req idempotencyKey tenant producerKeyFingerprint) now uuid s
  (result.1 >>= server.requireReceipt, result.2)

def commitProven (proven : Proven) (idempotencyKey tenant : Option String) (now : DateTime) (uuid : String)
    (s : Inner) : Except AcdpError PublishCommitOutcome × Inner :=
  if proven.authority ≠ server.authority then
    (.error (.registryInternal ("commit_proven: Proven was established against authority '" ++
    proven.authority ++ "', but this registry's authority is '" ++ server.authority ++
    "' — refusing to commit a proof against " ++ "the wrong registry")), s)
  else if server.receiptSigner.isSome ∧ proven.fingerprint.isNone then
    (.error (.registryInternal
      ("commit_proven: this registry requires receipts (a receipt_signer is configured) " ++
      "but the Proven carries no producer key fingerprint — it was most likely established via a " ++
      "different RegistryServer instance (one with no receipt_signer configured) that happens to share " ++
      "this one's authority; refusing to commit rather than silently persist a receipt-less context " ++
      "(RFC-ACDP-0010 §7: no degraded mode)")), s)
  else server.commitViaStore env proven.req idempotencyKey tenant proven.fingerprint now uuid s

def publishUnverifiedInTenantForTests (rateLimit : Except AcdpError Unit)
    (idempotencyKey tenant : Option String) (now : DateTime) (uuid : String) (s : Inner) :
    Except AcdpError PublishCommitOutcome × Inner :=
  match rateLimit with
  | .error e => (.error e, s)
  | .ok () =>
    if server.receiptSigner.isSome then
      (.error (.schemaViolation
      ("publish_unverified_for_tests / publish_unverified_in_tenant_for_tests are " ++
        "unavailable on a receipts-advertising registry (RFC-ACDP-0010 §7: no degraded mode); use " ++
        "publish_verified or publish_verified_did_key")), s)
    else match server.validate env req (.ok ()) with
      | .error e => (.error e, s)
      | .ok _ => server.commitViaStore env req idempotencyKey tenant none now uuid s

end PublishServer

end Acdp.Registry.Server
