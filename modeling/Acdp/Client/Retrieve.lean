import Acdp.Chain.Engine
import Acdp.Client.RevocationVerdict
import Acdp.Crypto.Envelope
import Acdp.Crypto.RawHash
import Acdp.Types.Receipt
import Acdp.Validation.Content

namespace Acdp.Client

open Acdp.Types
open Acdp.Crypto
open Acdp.Validation (PublishEnv validateBody)
open Acdp.Chain (verifyRegistryAssignedBindings)

inductive ReceiptPolicy where
  | ignore
  | verifyIfPresent
  | require
  | verifyAndReport
deriving DecidableEq, Repr

inductive HistoricalKeyPolicy where
  | reject
  | acceptWithReceipt
deriving DecidableEq, Repr

inductive KeyAuthorization where
  | currentlyAuthorized
  | historicallyAuthorized
  | historicallyAuthorizedPreCompromise
deriving DecidableEq, Repr

structure VerificationPolicy where
  validateBodySchema : Bool
  allowUnknownStatus : Bool
  receipts : ReceiptPolicy
  historicalKeys : HistoricalKeyPolicy
  acceptHistoricalReceiptKeyForPreT : Bool
  requireDidWebForV010 : Bool
deriving DecidableEq, Repr

/-- The uses of the resolver in one verification, each with the answers it gets. -/
structure Lookups where
  receiptKey : WebResolver
  registryKey : WebResolver
  revocationKey : WebResolver
  currentKey : WebResolver
  historicalKey : WebResolver

structure PlacedReceipt where
  receipt : RegistryReceipt
  keyStatus : ReceiptKeyStatus
  registryKeyFingerprint : String
deriving DecidableEq

structure KeyPhases where
  keyStatus : KeyAuthorization
  verifiedReceipt : Option RegistryReceipt
  receiptKeyStatus : Option ReceiptKeyStatus
  receiptRegistryKeyFingerprint : Option String
  receiptVerdict : Option (Except AcdpError Unit)
  revocation : RevocationAssessment

inductive LineageBinding where
  | derived
  | receiptAttested
  | unbound
deriving DecidableEq, Repr

def lineageBinding (body : Body) (receiptVerified : Bool) : LineageBinding :=
  if body.supersedes = none then .derived
  else if receiptVerified then .receiptAttested
  else .unbound

structure Retrieved extends KeyPhases where
  lineageBinding : LineageBinding

def acdpResult {α : Type} : Except AcdpError α → Except ClientError α
  | .ok a => .ok a
  | .error e => .error (.acdp e)

section Enforce

variable (env : Env)

def refusalDetail (effect : RevocationEffect) (boundary : DateTime) (placement : Option DateTime) : String :=
  match effect, placement with
  | .revoked, some t => "the receipt-attested publish time " ++ env.fmtRfc3339Ms t ++
      " is at/after the compromise boundary " ++ env.fmtRfc3339Ms boundary ++ ", so the signature is not " ++
      "attributable to the producer — fail closed regardless of DID-document state or receipt validity " ++
      "(RFC-ACDP-0014 §7 step 3)"
  | .unplaceable, some _ =>
    "the context's receipt is signed by a historical receipt key (verificationMethod " ++
      "only), which cannot place a revoked-key context before the compromise boundary " ++
      env.fmtRfc3339Ms boundary ++
      " under the strict profile — unplaceable, fail closed (RFC-ACDP-0014 §7 " ++
      "steps 1 and 4)"
  | _, _ =>
    "the context has no verified registry receipt, so its publish time cannot be placed relative to " ++
      "the compromise boundary " ++ env.fmtRfc3339Ms boundary ++
      " — an unplaceable revoked-key signature is exactly the artifact an attacker mints freely; " ++
      "the strict profile fails closed (RFC-ACDP-0014 §7 step 4)"

def RevocationAssessment.enforce (a : RevocationAssessment) : Except ClientError RevocationAssessment :=
  match a.verdict with
  | .revoked .preCompromise _ _ _ => .ok a
  | .revoked effect boundary revocation placement => .error (.keyRevoked {
      effect := effect
      signingKeyFingerprint := revocation.revokedKeyFingerprint
      boundary := boundary
      revocation := revocation
      placement := placement
      detail := refusalDetail env effect boundary placement })
  | .unknown _ _ =>
    match a.onFailure, a.discovery with
    | .failClosed, some (.error e) => .error e
    | _, _ => .ok a
  | .notRevoked _ _ _ => .ok a

end Enforce

section Receipt

variable (env : Env)

def receiptKeyLookupError (did fragment : String) (fresh : Bool) : AcdpError :=
  if fresh then .invalidReceipt ("registry DID document has no verification method '#" ++ fragment ++
    "' — receipt keys (including retired ones) must remain in verificationMethod")
  else .keyResolutionUnreachable ("receipt key '#" ++ fragment ++
    "' is absent from a stale cached copy of " ++ did ++
    " and the re-fetch is rate-limited (RFC-ACDP-0001 §5.11)")

def resolveReceiptKeyWithStatus (did fragment : String) (resolver : WebResolver) :
    Except AcdpError (VerificationMethod × ReceiptKeyStatus) :=
  match resolver.resolveUntil did (acceptsFragment fragment) with
  | .error (.keyResolution why) => .error (.invalidReceipt s!"registry DID document: {why}")
  | .error other => .error other
  | .ok res =>
    match res.document.findByFragment fragment with
    | some m => .ok (m, if res.document.isAssertionMethod m.id then .current else .historical)
    | none => .error (receiptKeyLookupError did fragment res.fresh)

def receiptError {α : Type} (what : String) : Except AcdpError α → Except AcdpError α
  | .ok a => .ok a
  | .error e => .error (.invalidReceipt (what ++ e.display))

def verifyReceiptSignature (m : VerificationMethod) (signature : Signature) (hash : ContentHash) :
    Except AcdpError Unit :=
  if signature.algorithm = "ed25519" then do
    let key ← receiptError "receipt key extraction: " (m.ed25519PublicKeyBytes env)
    receiptError "receipt signature: " (env.verifyEd25519 key signature.value hash)
  else if signature.algorithm = "ecdsa-p256" then do
    let key ← receiptError "receipt key extraction: " (m.ecdsaP256PublicKeySec1 env)
    receiptError "receipt signature: " (env.verifyEcdsaP256 key signature.value hash)
  else .error (.invalidReceipt ("receipt signature algorithm '" ++ signature.algorithm ++
    "' is not supported"))

def verifyReceiptPlaced (value : Json) (expectedCtxId : CtxId) (body : Body)
    (recomputedBodyHash : ContentHash) (producerKeyFingerprint servingAuthority : String)
    (resolver : WebResolver) : Except AcdpError PlacedReceipt := do
  let receipt ← RegistryReceipt.fromValue env value
  RegistryReceipt.validateCreatedAtForm env value
  let expectedDid := authorityToDidWeb servingAuthority
  if receipt.registryDid ≠ expectedDid then
    .error (.invalidReceipt ("receipt registry_did '" ++ receipt.registryDid ++
    "' ≠ serving authority's DID '" ++ expectedDid ++ "'"))
  receipt.crossCheck expectedCtxId recomputedBodyHash producerKeyFingerprint
  receipt.crossCheckBody env body
  match Text.splitOnceChar '#' receipt.signature.keyId with
  | none =>
    .error (.invalidReceipt ("receipt signature.key_id '" ++ receipt.signature.keyId ++ "' has no fragment"))
  | some (didPart, fragment) =>
    if didPart ≠ receipt.registryDid then
      .error (.invalidReceipt ("receipt signature.key_id DID '" ++ didPart ++ "' ≠ registry_did '" ++
        receipt.registryDid ++ "'"))
    let (method, keyStatus) ← resolveReceiptKeyWithStatus didPart fragment resolver
    let rawHash ← RegistryReceipt.preimageHashOfValue env value
    verifyReceiptSignature env method receipt.signature rawHash
    let fingerprint ← receiptError "receipt key fingerprint: "
      (fingerprintVerificationMethod env method receipt.signature.algorithm)
    return ⟨receipt, keyStatus, fingerprint⟩

end Receipt

def verifyBodySignature (env : Env) (body : Body) (resolver : WebResolver) : Except AcdpError Unit :=
  verifySignatureEnvelope env body.agentId body.signature body.contentHash resolver

def historicalLookup (resolver : WebResolver) (did fragment : String) : Except AcdpError DidDocument :=
  match resolver.resolveWithFragment did fragment with
  | .error (.keyResolution _) =>
    .error (.keyResolution ("no verification method with fragment '#" ++ fragment ++
      "' — the key was removed from the DID document, not just rotated out of assertionMethod"))
  | other => other

def verifyBodySignatureHistorical (env : Env) (body : Body) (resolver : WebResolver) :
    Except AcdpError Unit :=
  match Text.splitOnceChar '#' body.signature.keyId with
  | none => .error (.keyResolution ("signature.key_id '" ++ body.signature.keyId ++ "' has no '#fragment'"))
  | some (didPart, fragment) => do
    refuseKeylessFragment body.signature.keyId fragment
    if didPart ≠ body.agentId then
      .error (.keyNotAuthorized ("key_id DID '" ++ didPart ++ "' ≠ agent_id '" ++ body.agentId ++ "'"))
    if ¬ Text.hasPrefix "did:web:" didPart then
      .error (.keyResolution ("historical-key verification applies to did:web only; got '" ++ didPart ++ "'"))
    let doc ← historicalLookup resolver didPart fragment
    match doc.findByFragment fragment with
    -- `resolve_with_fragment` only answers with a document that has the fragment
    | none => .error (.registryInternal "resolve_with_fragment guarantees the fragment")
    | some method => verifySignatureWithMethod env method body.signature body.contentHash

def requireDidWebForV010 (body : Body) : Except AcdpError Unit :=
  if body.acdpVersion ≠ none ∧ body.acdpVersion ≠ some "0.1.0" then .ok ()
  else
    let keyDid := ((Text.splitOnceChar '#' body.signature.keyId).map Prod.fst).getD body.signature.keyId
    [("agent_id", body.agentId), ("signature.key_id", keyDid)].forM (fun field =>
      if Text.hasPrefix "did:web:" field.2 then .ok ()
      else .error (.schemaViolation ("v0.1.0 context (acdp_version " ++ body.acdpVersion.getD "absent" ++
        ") requires a did:web " ++ field.1 ++ "; got '" ++ field.2 ++
        "' (RFC-ACDP-0001 §5.11 strict profile)")))

def checkPresence (body : Body) : Except AcdpError Unit :=
  if ¬ isKeylessKeyId body.signature.keyId ∧ (body.extensions.lookup keyAttestationField).isSome then
    .error (.keyNotAuthorized ("keyless:attestation_mismatch: the body carries key_attestation but " ++
      "signature.key_id '" ++ body.signature.keyId ++ "' is not a keyless key id"))
  else .ok ()

section Pipeline

variable (env : PublishEnv) (policy : VerificationPolicy) (ctx : FullContext) (expectedCtxId : CtxId)
  (servingAuthority : String) (lookups : Lookups)

/-- The outcome of the receipt phase: none, or what verifying the receipt said. -/
def receiptPhase : Except AcdpError (Option (Except AcdpError PlacedReceipt)) :=
  match policy.receipts, ctx.registryReceipt with
  | .ignore, _ => .ok none
  | .require, none =>
    .error (.invalidReceipt ("policy requires a registry receipt but the response carries none " ++
      "(registry without the acdp-registry-receipts profile, or a pre-receipts context)"))
  | _, none => .ok none
  | receipts, some value => do
    let fingerprint ← fingerprintForKeyId env.toEnv ctx.body.signature.keyId ctx.body.signature.algorithm
      lookups.receiptKey
    match verifyReceiptPlaced env.toEnv value expectedCtxId ctx.body ctx.body.contentHash fingerprint
        servingAuthority lookups.registryKey with
    | .ok placed => .ok (some (.ok placed))
    | .error e => if receipts = .verifyAndReport then .ok (some (.error e)) else .error e

def revocationFingerprint (gathered : Gathered) : Except AcdpError (Option String) :=
  if gathered.hasInScope then
    (fingerprintForKeyId env.toEnv ctx.body.signature.keyId ctx.body.signature.algorithm
    lookups.revocationKey).map some
  else .ok none

def signaturePhase (preCompromise receiptVerified : Bool) : Except AcdpError KeyAuthorization :=
  if preCompromise then do
    if Text.hasPrefix "did:key:" ctx.body.agentId then
      verifyBodySignature env.toEnv ctx.body lookups.currentKey
    else verifyBodySignatureHistorical env.toEnv ctx.body lookups.historicalKey
    return .historicallyAuthorizedPreCompromise
  else match verifyBodySignature env.toEnv ctx.body lookups.currentKey with
    | .ok () => .ok .currentlyAuthorized
    | .error (.keyNotAuthorized why) =>
      if policy.historicalKeys = .acceptWithReceipt ∧ receiptVerified then do
        verifyBodySignatureHistorical env.toEnv ctx.body lookups.historicalKey
        return .historicallyAuthorized
      else .error (.keyNotAuthorized why)
    | .error e => .error e

def keyPhases (gathered : Gathered) : Except ClientError KeyPhases := do
  let receiptOutcome ← acdpResult (receiptPhase env policy ctx expectedCtxId servingAuthority lookups)
  let placed := receiptOutcome.bind (fun outcome => outcome.toOption)
  let fingerprint ← acdpResult (revocationFingerprint env ctx lookups gathered)
  let revocation ← (decide gathered fingerprint (placed.map (fun p => (p.receipt.createdAt, p.keyStatus)))
    policy.acceptHistoricalReceiptKeyForPreT).enforce env.toEnv
  let keyStatus ← acdpResult (signaturePhase env policy ctx lookups revocation.preCompromise placed.isSome)
  return {
    keyStatus := keyStatus
    verifiedReceipt := placed.map (·.receipt)
    receiptKeyStatus := placed.map (·.keyStatus)
    receiptRegistryKeyFingerprint := placed.map (·.registryKeyFingerprint)
    receiptVerdict := receiptOutcome.map (fun outcome => outcome.map (fun _ => ()))
    revocation := revocation }

def allowedStatus : Except ClientError Unit :=
  match policy.allowUnknownStatus, ctx.registryState.status with
  | false, .other name => .error (.acdp (.schemaViolation
      s!"policy.allow_unknown_status=false; registry returned '{name}'"))
  | _, _ => .ok ()

def preliminaryChecks : Except ClientError Unit := do
  if ctx.body.ctxId ≠ expectedCtxId then .error (.contextIdMismatch expectedCtxId ctx.body.ctxId)
  acdpResult (verifyRegistryAssignedBindings env.toEnv ctx.body)
  acdpResult (checkPresence ctx.body)
  if policy.validateBodySchema then acdpResult (validateBody env ctx.body)
  if policy.requireDidWebForV010 then acdpResult (requireDidWebForV010 ctx.body)
  acdpResult (verifyContextHash env.toWireEnv ctx)

/-- `verify_retrieved`; `keyless` and `transparency` are what the keyless phases and the transparency
phase answer. -/
def verifyRetrieved (gathered : Gathered) (keyless : Except ClientError KeyPhases)
    (transparency : KeyPhases → Except ClientError Unit) : Except ClientError Retrieved := do
  preliminaryChecks env policy ctx expectedCtxId
  let phases ← (if isKeylessKeyId ctx.body.signature.keyId then keyless
    else keyPhases env policy ctx expectedCtxId servingAuthority lookups gathered)
  allowedStatus policy ctx
  transparency phases
  return { phases with lineageBinding := lineageBinding ctx.body phases.verifiedReceipt.isSome }

end Pipeline

end Acdp.Client
