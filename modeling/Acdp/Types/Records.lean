import Acdp.Types.Log

namespace Acdp.Types

open Acdp.Crypto.Merkle (Digest)

structure RegistryReceipt where
  registryDid : String
  ctxId : CtxId
  lineageId : LineageId
  originRegistry : String
  createdAt : DateTime
  contentHash : ContentHash
  keyFingerprint : String
  signature : Signature
deriving DecidableEq, Repr

structure WitnessedCheckpoint where
  logId : String
  treeSize : ℕ
  rootHash : String
  timestamp : DateTime
deriving DecidableEq, Repr

structure LogCosignature where
  cosignatureVersion : String
  witnessId : String
  witnessedCheckpoint : WitnessedCheckpoint
  witnessedAt : DateTime
  signature : Signature
deriving DecidableEq, Repr

inductive RevocationTrustClass where
  | producerSigned
  | registryAttested
deriving DecidableEq, Repr

structure KeyRevocation where
  revokedKeyFingerprint : String
  compromisedSince : DateTime
  reason : Option String
  revokedKeyId : Option String
  revokedKeyController : AgentDid
  publisher : AgentDid
  trustClass : RevocationTrustClass
  ctxId : Option CtxId
deriving DecidableEq, Repr

structure Jwk where
  crv : String
  kty : String
  x : String
  y : Option String
deriving DecidableEq, Repr

inductive WorkloadIdentity where
  | oidc (issuer subject : String)
  | spiffe (subject : String)
deriving DecidableEq, Repr

structure KeyAttestation where
  attestationVersion : String
  controller : String
  identity : WorkloadIdentity
  orgWide : Bool
  keyId : String
  algorithm : String
  publicKeyJwk : Jwk
  keyFingerprint : String
  notBefore : DateTime
  notAfter : DateTime
  tokenHash : String
deriving DecidableEq, Repr

structure VerificationMethod where
  id : String
  methodType : String
  controller : String
  publicKeyJwk : Option Json
  publicKeyMultibase : Option String
deriving DecidableEq

inductive AssertionMethodRef where
  | id (url : String)
  | embedded (method : VerificationMethod)
deriving DecidableEq

structure DidDocument where
  id : String
  verificationMethods : List VerificationMethod
  assertionMethod : List AssertionMethodRef
  services : List Json
deriving DecidableEq

inductive DidKeyMaterial where
  | ed25519 (key : Digest)
  | ecdsaP256 (key : Vector UInt8 33)
deriving DecidableEq

/-- What the verifier takes from outside: serde's derived codecs, chrono, JCS, SHA-256, base64, base58 and the
two signature schemes, together with the body schema check of `acdp-validation`. -/
structure Env extends LogEnv where
  bodyDeserialize : Json → Except String Body
  receiptDeserialize : Json → Except String RegistryReceipt
  eventDeserialize : Json → Except String LifecycleEvent
  eventReceiptDeserialize : Json → Except String EventReceipt
  checkpointDeserialize : Json → Except String LogCheckpoint
  inclusionDeserialize : Json → Except String LogInclusion
  cosignatureDeserialize : Json → Except String LogCosignature
  didDocumentDeserialize : Json → Except String DidDocument
  attestationRefDeserialize : Json → Except String KeyAttestationRef
  attestationDeserialize : Json → Except String KeyAttestation
  identityDeserialize : Json → Except String WorkloadIdentity
  fmtRfc3339Ms : DateTime → String
  display : DateTime → String
  base64UrlDecode : String → Except String (List UInt8)
  base58Decode : String → Except String (List UInt8)
  p256Compressed : List UInt8 → Except String (List UInt8)
  verifyEd25519 : Digest → String → String → Except AcdpError Unit
  verifyEcdsaP256 : List UInt8 → String → String → Except AcdpError Unit
  validateBodySchema : Body → Except AcdpError Unit

end Acdp.Types
