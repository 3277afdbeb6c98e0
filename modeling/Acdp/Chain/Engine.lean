import Acdp.Chain.Keys
import Acdp.Types.Keyless
import Acdp.Types.Revocation

namespace Acdp.Chain

open Acdp.Types
open Acdp.Crypto

inductive PassAt where
  | latest
  | asOf (t : DateTime)
deriving DecidableEq, Repr

namespace PassAt

def t : PassAt → Option DateTime
  | .latest => none
  | .asOf t => some t

def admits (pass : PassAt) (time : DateTime) : Bool := BundleKeys.admittedAt pass.t time

def isAsOf : PassAt → Bool
  | .latest => false
  | .asOf _ => true

def noEvidenceReason (pass : PassAt) : Option String :=
  if pass.isAsOf then some reasonNoEvidenceAtAsOf else none

end PassAt

structure VerifiedReceipt where
  createdAt : DateTime
  keyStatus : KeyStatus
  basis : Basis
  keyFingerprint : String
  registryKeyFingerprint : Option String
deriving DecidableEq, Repr

structure Attested where
  ctxId : String
  attester : String
  attestation : KeyAttestation
  signatureValid : Bool
deriving DecidableEq, Repr

inductive Unattested where
  | noEvidence
  | unavailable
  | unaccepted
  | invalid
deriving DecidableEq, Repr

def Unattested.missing : Unattested → Missing
  | .noEvidence => .noEvidence
  | .unavailable | .unaccepted | .invalid => .malformed

def Attested.keyCheck (a : Attested) : KeyCheck where
  basis := .registry
  evidenceTime := none
  inAssertion := false
  fingerprint := some a.attestation.keyFingerprint
  valid := a.signatureValid

structure Basic where
  presence : Presence
  undated : Bool
  identity : Identity
  contentHash : ContentHashStage
  signature : Option SignatureStage
  receiptStage : ReceiptStage
  receipt : Option VerifiedReceipt
  key : KeyStage
  fingerprint : Option String
  keyless : Option Attested
  keylessFailure : Option Unattested
deriving DecidableEq, Repr

def Basic.sigOk (b : Basic) : Bool := b.signature.any (fun s => s.value == .ok)

structure Engine where
  env : Env
  keyless : Bool
  parsed : Parsed
  keys : BundleKeys
  pinned : Pinned
  requireAttestedEvents : Bool
  keylessAttesters : List String

def verifyRegistryAssignedBindings (env : Env) (body : Body) : Except AcdpError Unit :=
  let derived := deriveLineageId env.sha256 body.ctxId
  let authority := CtxId.authority body.ctxId
  if body.supersedes = none ∧ body.lineageId ≠ derived then
    .error (.schemaViolation ("lineage_id '" ++ body.lineageId ++ "' is not the RFC-ACDP-0001 §5.6 " ++
      "derivation '" ++ derived ++ "' of first-version ctx_id '" ++ body.ctxId ++
      "' (RFC-ACDP-0004 §2.1)"))
  else if body.originRegistry ≠ authority then
    .error (.schemaViolation ("origin_registry '" ++ body.originRegistry ++ "' does not equal the " ++
      "ctx_id authority '" ++ authority ++ "' (RFC-ACDP-0004 §2.1)"))
  else .ok ()

def missingStages (m : Missing) (pass : PassAt) : Option SignatureStage × KeyStage :=
  match m, pass with
  | .noEvidence, .asOf _ => (none, ⟨.unknown, none, none, pass.noEvidenceReason⟩)
  | _, _ => (some ⟨.unresolvable, none⟩, ⟨.unresolvable, none, none, none⟩)

namespace Engine

variable (e : Engine)

def registryBasis (registryDid : String) : Basis :=
  if registryDid ∈ e.pinned.registries then .pinned else .registry

def receiptInvalid (reason : Option String) : ReceiptStage × Option VerifiedReceipt :=
  (⟨.invalid, none, none, none, reason⟩, none)

def receiptChecked (key : String) (pc : ParsedContext) (recomputed : Option ContentHash)
    (producerFingerprint : Option String) (r : RegistryReceipt) (raw : Json) : Option ContentHash :=
  match recomputed, CtxId.parse key with
  | some recomputed, .ok expectedCtx =>
    if r.registryDid ≠ authorityToDidWeb pc.body.originRegistry ∨
        ¬ (r.crossCheck expectedCtx recomputed (producerFingerprint.getD r.keyFingerprint)).isOk ∨
        ¬ (r.crossCheckBody e.env pc.body).isOk then none
    else (RegistryReceipt.preimageHashOfValue e.env raw).toOption
  | _, _ => none

def receipt (key : String) (pc : ParsedContext) (recomputed : Option ContentHash)
    (producerFingerprint : Option String) (pass : PassAt) : ReceiptStage × Option VerifiedReceipt :=
  match pc.receipt with
  | none => (⟨.absent, none, none, none, none⟩, none)
  | some (r, raw) =>
    match e.receiptChecked key pc recomputed producerFingerprint r raw with
    | none => receiptInvalid none
    | some hash =>
      match e.keys.check e.env r.signature hash r.registryDid pass.t with
      | .ok c =>
        if c.valid then
          let basis := e.registryBasis r.registryDid
          let keyStatus := if c.inAssertion then .current else .historical
          (⟨.ok, some keyStatus, some basis, some (fmtTs e.env r.createdAt), none⟩,
            some ⟨r.createdAt, keyStatus, basis, r.keyFingerprint, c.fingerprint⟩)
        else receiptInvalid none
      | .error .malformed => receiptInvalid none
      | .error .noEvidence =>
        match pass with
        | .asOf t => if e.keys.onlyAfter r.registryDid t then receiptInvalid pass.noEvidenceReason
            else receiptInvalid none
        | .latest => receiptInvalid none

def presence (receipt : Option VerifiedReceipt) (pass : PassAt) : Presence × Bool :=
  match receipt with
  | some r =>
    (⟨if pass.admits r.createdAt then .present else .notYetPublished, some (fmtTs e.env r.createdAt),
      some r.basis⟩, false)
  | none => (⟨.present, none, none⟩, pass.isAsOf)

def carriedDisagrees (pc : ParsedContext) : Bool :=
  pc.receipt.any (fun p => p.1.ctxId ≠ pc.body.ctxId || p.1.lineageId ≠ pc.body.lineageId ||
    p.1.originRegistry ≠ pc.body.originRegistry || p.1.createdAt ≠ pc.body.createdAt)

def identity (key : String) (pc : ParsedContext) (receipt : Option VerifiedReceipt) : Identity :=
  if key ≠ pc.body.ctxId ∨ carriedDisagrees pc ∨
      ¬ (verifyRegistryAssignedBindings e.env pc.body).isOk then ⟨.mismatch, none, none⟩
  else match receipt with
    | some r => ⟨.ok, some r.basis, none⟩
    | none => ⟨.unbound, none, none⟩

def locatedStages (check : Except Missing KeyCheck) (receipt : Option VerifiedReceipt) (pass : PassAt) :
    Option SignatureStage × KeyStage :=
  match check with
  | .error m => missingStages m pass
  | .ok c =>
    (some ⟨if c.valid then .ok else .invalid, some c.basis⟩,
      if c.inAssertion then ⟨.current, some c.basis, c.evidenceTime.map (fmtTs e.env), none⟩
      -- a verified receipt binds the key's fingerprint to a registry-attested time
      else if receipt.isSome then
        ⟨.historicalReceiptAttested, some c.basis, c.evidenceTime.map (fmtTs e.env), none⟩
      else ⟨.unresolvable, none, none, none⟩)

def isKeylessNode (body : Body) : Bool :=
  isKeylessKeyId body.signature.keyId || (body.extensions.lookup keyAttestationField).isSome

def keylessPlaced (body : Body) (a : Attested) (r : VerifiedReceipt) : Bool :=
  authorityToDidWeb body.originRegistry == a.attester && a.attestation.windowContains r.createdAt

def keylessStages (body : Body) (a : Attested) (r : VerifiedReceipt) (pass : PassAt) :
    Except Missing (Option SignatureStage × KeyStage) :=
  if ¬ e.keys.hasSnapshot body.agentId pass.t then .error .noEvidence
  else
    let basis := e.registryBasis a.attester
    let listed := (e.keys.document body.agentId pass.t).any (fun d =>
      ((listedIdentities e.env d.1).find? (fun l => l.identity == a.attestation.identity)).isSome)
    .ok (some ⟨if a.signatureValid then .ok else .invalid, some basis⟩,
      ⟨if listed then .current else .historicalReceiptAttested, some basis,
        some (fmtTs e.env r.createdAt), none⟩)

def locate (body : Body) (pass : PassAt) (attested : Option (Except Unattested Attested)) :
    Except Missing KeyCheck :=
  match attested with
  | some (.ok a) => .ok a.keyCheck
  | some (.error u) => .error u.missing
  | none => e.keys.check e.env body.signature body.contentHash body.agentId pass.t

def keyStages (body : Body) (check : Except Missing KeyCheck) (receipt : Option VerifiedReceipt)
    (pass : PassAt) (attested : Option (Except Unattested Attested)) :
    (Option SignatureStage × KeyStage) × Option Attested × Option Unattested :=
  match attested with
  | none => (e.locatedStages check receipt pass, none, none)
  | some (.error u) => (e.locatedStages check receipt pass, none, some u)
  | some (.ok a) =>
    match receipt.filter (keylessPlaced body a) with
    | some r =>
      match e.keylessStages body a r pass with
      | .ok stages => (stages, some a, none)
      | .error m => (missingStages m pass, some a, none)
    | none => (missingStages .malformed pass, none, none)

/-- `basic` with the outcome of the attestation lookup given. -/
def basicWith (key : String) (pc : ParsedContext) (pass : PassAt)
    (attested : Option (Except Unattested Attested)) : Basic :=
  let recomputed := (computeContentHash e.env pc.rawBody).toOption
  let check := e.locate pc.body pass attested
  let fingerprint := check.toOption.bind (·.fingerprint)
  let receipt := e.receipt key pc recomputed fingerprint pass
  let presence := e.presence receipt.2 pass
  let stages := e.keyStages pc.body check receipt.2 pass attested
  { presence := presence.1
    undated := presence.2
    identity := e.identity key pc receipt.2
    contentHash := ⟨if recomputed = some pc.body.contentHash then .ok else .mismatch, .selfEvident⟩
    signature := stages.1.1
    receiptStage := receipt.1
    receipt := receipt.2
    key := stages.1.2
    fingerprint := fingerprint
    keyless := stages.2.1
    keylessFailure := stages.2.2 }

def attestationBasic (key : String) (pc : ParsedContext) (pass : PassAt) : Basic :=
  e.basicWith key pc pass (if isKeylessNode pc.body then some (.error .invalid) else none)

def attestationUsable (pc : ParsedContext) (b : Basic) (pass : PassAt) : Except Unattested Unit :=
  if b.presence.value ≠ .present then .error .noEvidence
  else if pc.receipt = none ∨ ¬ e.keys.hasSnapshot pc.body.agentId pass.t then .error .unavailable
  else if b.key.value = .unknown then .error .invalid
  else if b.contentHash.value ≠ .ok ∨ b.identity.value ≠ .ok ∨ ¬ b.sigOk ∨
      (b.key.value ≠ .current ∧ b.key.value ≠ .historicalReceiptAttested) ∨ b.receipt = none then
    .error .invalid
  else .ok ()

def keylessAttested (body : Body) (pass : PassAt) : Except Unattested Attested :=
  if ¬ isKeylessKeyId body.signature.keyId then .error .invalid
  else match body.keyAttestation e.env with
    | .error _ | .ok none => .error .invalid
    | .ok (some reference) =>
      match e.parsed.contexts[reference.ctxId]? with
      | none => .error .noEvidence
      | some pc =>
        if pc.body.ctxId ≠ reference.ctxId then .error .unavailable
        else if pc.body.contentHash ≠ reference.contentHash ∨ isKeylessKeyId pc.body.signature.keyId then
          .error .invalid
        else
          match e.attestationUsable pc (e.attestationBasic reference.ctxId pc pass) pass with
          | .error u => .error u
          | .ok () =>
            match KeyAttestation.fromBody e.env pc.body with
            | .error _ => .error .invalid
            | .ok attestation =>
              if pc.body.agentId ∉ e.keylessAttesters then .error .unaccepted
              else if ¬ attestation.binds body.agentId body.signature then .error .invalid
              else .ok {
                ctxId := reference.ctxId
                attester := pc.body.agentId
                attestation := attestation
                signatureValid := (attestation.publicKeyJwk.verify e.env body.signature.algorithm
                  body.signature.value body.contentHash).isOk }

def attested (body : Body) (pass : PassAt) : Option (Except Unattested Attested) :=
  if e.keyless ∧ isKeylessNode body then some (e.keylessAttested body pass) else none

def basic (key : String) (pc : ParsedContext) (pass : PassAt) : Basic :=
  e.basicWith key pc pass (e.attested pc.body pass)

end Engine

end Acdp.Chain
