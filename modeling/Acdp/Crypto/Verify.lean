import Acdp.Did.Document

namespace Acdp.Crypto

open Acdp.Types
open Acdp.Crypto.Merkle (Digest)

def fingerprintEd25519 (env : Env) (key : Digest) : String := encodeSha256Hex (env.sha256 key.toList)

def fingerprintP256Sec1 (env : Env) (sec1 : List UInt8) : Except AcdpError String :=
  match env.p256Compressed sec1 with
  | .error e => .error (.keyResolution s!"p256 SEC1 parse: {e}")
  | .ok compressed => .ok (encodeSha256Hex (env.sha256 compressed))

def fingerprintDidKeyMaterial (env : Env) : DidKeyMaterial → Except AcdpError String
  | .ed25519 key => .ok (fingerprintEd25519 env key)
  | .ecdsaP256 sec1 => fingerprintP256Sec1 env sec1.toList

def fingerprintVerificationMethod (env : Env) (m : VerificationMethod) (algorithm : String) :
    Except AcdpError String :=
  if algorithm = "ed25519" then do return fingerprintEd25519 env (← m.ed25519PublicKeyBytes env)
  else if algorithm = "ecdsa-p256" then do fingerprintP256Sec1 env (← m.ecdsaP256PublicKeySec1 env)
  else .error (.unsupportedAlgorithm s!"cannot fingerprint keys for algorithm '{algorithm}'")

def verifySignatureByAlgorithm (env : Env) (m : VerificationMethod) (signature : Signature)
    (contentHash : ContentHash) : Except AcdpError Unit :=
  if signature.algorithm = "ed25519" then do
    env.verifyEd25519 (← m.ed25519PublicKeyBytes env) signature.value contentHash
  else if signature.algorithm = "ecdsa-p256" then do
    env.verifyEcdsaP256 (← m.ecdsaP256PublicKeySec1 env) signature.value contentHash
  else .error (.unsupportedAlgorithm
    ("verifier does not support signature algorithm '" ++ signature.algorithm ++ "'"))

def verifySignatureWithMethod (env : Env) (m : VerificationMethod) (signature : Signature)
    (contentHash : ContentHash) : Except AcdpError Unit :=
  match m.declaredAlgorithm env with
  | some declared =>
    if declared ≠ signature.algorithm then
      .error (.invalidSignature ("signature.algorithm '" ++ signature.algorithm ++
        "' does not match verification method type (resolved key declares '" ++ declared ++ "')"))
    else verifySignatureByAlgorithm env m signature contentHash
  | none => verifySignatureByAlgorithm env m signature contentHash

def verifyDidKeyEnvelope (env : Env) (signature : Signature) (contentHash : ContentHash) :
    Except AcdpError Unit := do
  let material ← resolveDidKeyUrl env signature.keyId
  if material.algorithm ≠ signature.algorithm then
    .error (.invalidSignature ("signature.algorithm '" ++ signature.algorithm ++ "' does not match the " ++
      "did:key multicodec (key implies '" ++ material.algorithm ++ "')"))
  else match material with
    | .ed25519 key => env.verifyEd25519 key signature.value contentHash
    | .ecdsaP256 sec1 => env.verifyEcdsaP256 sec1.toList signature.value contentHash

/-- The registry-assigned and self-referential members that `content_hash` leaves out. -/
def contentHashExclude : List String :=
  ["content_hash", "signature", "ctx_id", "lineage_id", "origin_registry", "created_at"]

def removeKeys (keys : List String) (members : List (String × Json)) : List (String × Json) :=
  members.filter (fun m => m.1 ∉ keys)

def hashOfMembers (env : Env) (members : List (String × Json)) : Except AcdpError ContentHash := do
  return encodeSha256Hex (env.sha256 (← env.canonicalize (.obj members)))

def computeContentHash (env : Env) (body : Json) : Except AcdpError ContentHash :=
  match body.asObject with
  | none => .error (.invalidBody "expected a JSON object")
  | some members => hashOfMembers env (removeKeys contentHashExclude members)

def verifyContentHash (env : Env) (body : Json) (stored : ContentHash) : Except AcdpError Unit := do
  let recomputed ← computeContentHash env body
  if recomputed ≠ stored then .error (.hashMismatch stored recomputed) else .ok ()

def preimageHashOfMap (env : Env) (members : List (String × Json)) : Except AcdpError ContentHash :=
  hashOfMembers env (removeKeys ["signature"] members)

def preimageHashOfObjectWith (env : Env) (value : Json) (what : String) (mkErr : String → AcdpError) :
    Except AcdpError ContentHash :=
  match value.asObject with
  | none => .error (mkErr (what ++ " must be a JSON object"))
  | some members => preimageHashOfMap env members

end Acdp.Crypto
