import Acdp.Types.Receipt

namespace Acdp.Types

open Acdp.Crypto
open Acdp.Crypto.Merkle (Digest Hasher)

def LogLeaf.forPublish (env : Env) (body : Body) (contentHash : ContentHash) (keyFingerprint : String)
    (receiptValue : Json) : Except AcdpError LogLeaf := do
  let receiptHash ← RegistryReceipt.preimageHashOfValue env receiptValue
  return {
    leafVersion := logLeafVersion
    ctxId := body.ctxId
    lineageId := body.lineageId
    originRegistry := body.originRegistry
    createdAt := body.createdAt
    contentHash := contentHash
    keyFingerprint := keyFingerprint
    receiptHash := receiptHash }

namespace LogCheckpoint

def registryDid (c : LogCheckpoint) : Except AcdpError String := do
  let (did, _) ← parseLogId c.logId
  if (Text.splitOnceChar '#' c.signature.keyId).any (fun p => p.1 == did && p.2 ≠ "") then return did
  else .error (.invalidLogProof ("log_checkpoint signature.key_id '" ++ c.signature.keyId ++
    "' is not a DID URL under the log_id's registry DID '" ++ did ++ "' (RFC-ACDP-0012 §6)"))

def fromValue (env : Env) (value : Json) : Except AcdpError LogCheckpoint :=
  match env.checkpointDeserialize value with
  | .error e => .error (.invalidLogProof s!"log_checkpoint does not parse: {e}")
  | .ok c => do
    if c.checkpointVersion ≠ logCheckpointVersion then
      .error (.invalidLogProof ("log_checkpoint checkpoint_version '" ++ c.checkpointVersion ++
        "' ≠ '" ++ logCheckpointVersion ++ "' (RFC-ACDP-0012 §9.3 step 1)"))
    let _ ← parseLogId c.logId
    let _ ← decodeSha256Hex c.rootHash
    match (value.get "timestamp").bind Json.asStr with
    | none => .error (.invalidLogProof "log_checkpoint timestamp missing or not a string")
    | some raw =>
      if ¬ isCanonicalMsUtc env.toLogEnv raw then
        .error (.invalidLogProof (s!"log_checkpoint timestamp '{raw}' is not canonical " ++
          "millisecond-precision RFC 3339 UTC (`YYYY-MM-DDTHH:MM:SS.mmmZ`, RFC-ACDP-0012 §9.3 step 4)"))
    let _ ← c.registryDid
    return c

def preimageHashOfValue (env : Env) (value : Json) : Except AcdpError ContentHash :=
  preimageHashOfObjectWith env value "log_checkpoint" .invalidLogProof

end LogCheckpoint

namespace LogInclusion

def fromValue (env : Env) (value : Json) : Except AcdpError LogInclusion :=
  match env.inclusionDeserialize value with
  | .error e => .error (.invalidLogProof s!"log_inclusion does not parse: {e}")
  | .ok inclusion => do
    if inclusion.treeSize < 1 then
      .error (.invalidLogProof
        "log_inclusion tree_size must be >= 1 (an empty tree has no members)")
    if let some cp := value.get "log_checkpoint" then
      let _ ← LogCheckpoint.fromValue env cp
    if let some leaf := value.get "leaf" then
      let _ ← LogLeaf.fromValue env.toLogEnv leaf
    return inclusion

def crossCheckBinding (p : LogInclusion) : Except AcdpError Unit :=
  if p.treeSize ≠ p.logCheckpoint.treeSize then
    .error (.invalidLogProof ("log_inclusion tree_size " ++ toString p.treeSize ++
      " ≠ log_checkpoint.tree_size " ++ toString p.logCheckpoint.treeSize ++
      " (RFC-ACDP-0012 §9.1 step 4)"))
  else if p.logId ≠ p.logCheckpoint.logId then
    .error (.invalidLogProof ("log_inclusion log_id '" ++ p.logId ++ "' ≠ log_checkpoint.log_id '" ++
      p.logCheckpoint.logId ++ "' (RFC-ACDP-0012 §9.1 step 4)"))
  else if p.leafIndex ≥ p.treeSize then
    .error (.invalidLogProof ("log_inclusion leaf_index " ++ toString p.leafIndex ++
      " is not < tree_size " ++ toString p.treeSize ++ " (RFC-ACDP-0012 §9.1 step 4)"))
  else .ok ()

def verifyLeafHash (env : Env) (p : LogInclusion) (leafHash : Digest) : Except AcdpError Unit := do
  p.crossCheckBinding
  let path ← p.inclusionPath.mapM decodeSha256Hex
  let root ← decodeSha256Hex p.logCheckpoint.rootHash
  if ¬ Merkle.verifyInclusion (Hasher.ofSha256 env.sha256) leafHash p.leafIndex p.treeSize path root then
    .error (.invalidLogProof ("inclusion_path for leaf_index " ++ toString p.leafIndex ++
      " does not fold to the checkpoint root_hash '" ++ p.logCheckpoint.rootHash ++ "' at tree_size " ++
      toString p.treeSize ++ " (RFC-ACDP-0012 §9.1 step 6)"))

def verifyReconstructedLeaf (env : Env) (p : LogInclusion) (leaf : LogLeaf) : Except AcdpError Unit := do
  p.verifyLeafHash env (← leaf.leafHash env.toLogEnv)

end LogInclusion

def cosignatureVersion : String := "acdp-cosig/1"

def isWitnessDid (id : String) : Bool :=
  (Text.hasPrefix "did:web:" id && 8 < id.utf8ByteSize) ||
    (Text.hasPrefix "did:key:z" id && 9 < id.utf8ByteSize)

namespace LogCosignature

def witnessKeyDid (c : LogCosignature) : Except AcdpError String :=
  if (Text.splitOnceChar '#' c.signature.keyId).any (fun p => p.1 == c.witnessId && p.2 ≠ "") then
    .ok c.witnessId
  else .error (.invalidWitnessCosignature ("log_cosignature signature.key_id '" ++ c.signature.keyId ++
    "' is not a DID URL under witness_id '" ++ c.witnessId ++ "' (RFC-ACDP-0015 §8 step 3)"))

def canonicalMember (env : Env) (what : String) (raw : Option Json) : Except AcdpError Unit :=
  match raw.bind Json.asStr with
  | none => .error (.invalidWitnessCosignature
      ("log_cosignature " ++ what ++ " missing or not a string"))
  | some raw =>
    if isCanonicalMsUtc env.toLogEnv raw then .ok ()
    else .error (.invalidWitnessCosignature ("log_cosignature " ++ what ++ " '" ++ raw ++ "' is not " ++
      "canonical millisecond-precision RFC 3339 UTC (`YYYY-MM-DDTHH:MM:SS.mmmZ`, RFC-ACDP-0015 §4)"))

def witnessedShape {α : Type} (r : Except AcdpError α) : Except AcdpError Unit :=
  match r with
  | .error e => .error (.invalidWitnessCosignature ("witnessed_checkpoint: " ++ e.display))
  | .ok _ => .ok ()

def fromValue (env : Env) (value : Json) : Except AcdpError LogCosignature :=
  match env.cosignatureDeserialize value with
  | .error e => .error (.invalidWitnessCosignature s!"log_cosignature does not parse: {e}")
  | .ok c => do
    if c.cosignatureVersion ≠ Types.cosignatureVersion then
      .error (.invalidWitnessCosignature ("log_cosignature cosignature_version '" ++
        c.cosignatureVersion ++ "' ≠ '" ++ Types.cosignatureVersion ++ "' (RFC-ACDP-0015 §4)"))
    if ¬ isWitnessDid c.witnessId then
      .error (.invalidWitnessCosignature ("log_cosignature witness_id '" ++ c.witnessId ++
        "' is not a did:web or did:key DID (RFC-ACDP-0015 §4)"))
    witnessedShape (parseLogId c.witnessedCheckpoint.logId)
    witnessedShape (decodeSha256Hex c.witnessedCheckpoint.rootHash)
    canonicalMember env "witnessed_checkpoint.timestamp"
      ((value.get "witnessed_checkpoint").bind (·.get "timestamp"))
    canonicalMember env "witnessed_at" (value.get "witnessed_at")
    let _ ← c.witnessKeyDid
    return c

def preimageHashOfValue (env : Env) (value : Json) : Except AcdpError ContentHash :=
  preimageHashOfObjectWith env value "log_cosignature" .invalidWitnessCosignature

def crossCheckAgainstCheckpoint (c : LogCosignature) (checkpoint : LogCheckpoint) :
    Except AcdpError Unit :=
  let wc := c.witnessedCheckpoint
  if wc.logId ≠ checkpoint.logId then
    .error (.invalidWitnessCosignature ("log_cosignature witnessed_checkpoint.log_id '" ++ wc.logId ++
      "' ≠ evaluated checkpoint log_id '" ++ checkpoint.logId ++ "' (RFC-ACDP-0015 §8 step 4)"))
  else if wc.treeSize ≠ checkpoint.treeSize then
    .error (.invalidWitnessCosignature ("log_cosignature witnessed_checkpoint.tree_size " ++
      toString wc.treeSize ++ " ≠ evaluated checkpoint tree_size " ++ toString checkpoint.treeSize ++
      " (RFC-ACDP-0015 §8 step 4)"))
  else if wc.rootHash ≠ checkpoint.rootHash then
    .error (.invalidWitnessCosignature ("log_cosignature witnessed_checkpoint.root_hash '" ++
      wc.rootHash ++ "' ≠ evaluated checkpoint root_hash '" ++ checkpoint.rootHash ++
      "' (RFC-ACDP-0015 §8 step 4)"))
  else .ok ()

end LogCosignature

end Acdp.Types
