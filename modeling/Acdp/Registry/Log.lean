import Acdp.Types.Log
import Acdp.Crypto.MerkleConsistency
import Acdp.Foundation.Transition
import Mathlib.Data.Finset.Insert

namespace Acdp.Registry.Log

open Acdp.Types
open Acdp.Crypto.Merkle

structure MerkleLog where
  logId : String
  leaves : List LogLeaf
  leafHashes : List Digest
  ctxIds : Finset String

/-- How a call fails: with an error value, or by a panic. -/
inductive Fault where
  | error (e : AcdpError)
  | panic (message : String)
deriving DecidableEq, Repr

structure LogSigner where
  registryDid : String
  keyId : String
  algorithm : String
  sign : LogCheckpoint → Except AcdpError (String × String)

def MerkleLog.new (logId : String) : Except AcdpError MerkleLog := do
  let _ ← parseLogId logId
  return { logId := logId, leaves := [], leafHashes := [], ctxIds := ∅ }

def MerkleLog.treeSize (log : MerkleLog) : ℕ := log.leaves.length

def MerkleLog.checkAppend (env : LogEnv) (log : MerkleLog) (leaf : LogLeaf) :
    Except AcdpError (LogLeaf × Digest) := do
  let leaf ← LogLeaf.fromValue env (← env.leafToValue leaf)
  let authority := leaf.ctxId.authority
  if leaf.ctxId ∈ log.ctxIds then
    .error (.schemaViolation (s!"transparency log already holds a leaf for ctx_id '{leaf.ctxId}' — " ++
      "exactly one leaf per publish event (RFC-ACDP-0012 §4)"))
  else if authority ≠ leaf.originRegistry then
    .error (.schemaViolation (s!"leaf origin_registry '{leaf.originRegistry}' ≠ ctx_id authority " ++
      s!"'{authority}' (RFC-ACDP-0012 §4)"))
  else
    let (registryDid, _) ← parseLogId log.logId
    if authorityToDidWeb leaf.originRegistry ≠ registryDid then
      .error (.schemaViolation (s!"leaf origin_registry '{leaf.originRegistry}' is not this log's " ++
        s!"registry ('{registryDid}') (RFC-ACDP-0012 §4)"))
    else
      let hash ← leaf.leafHash env
      return (leaf, hash)

def MerkleLog.append (env : LogEnv) (leaf : LogLeaf) (log : MerkleLog) :
    Except AcdpError ℕ × MerkleLog :=
  match log.checkAppend env leaf with
  | .error e => (.error e, log)
  | .ok (leaf, hash) =>
    (.ok log.leaves.length,
      { log with
        ctxIds := insert leaf.ctxId log.ctxIds
        leaves := log.leaves ++ [leaf]
        leafHashes := log.leafHashes ++ [hash] })

def MerkleLog.run (env : LogEnv) (leaves : List LogLeaf) (log : MerkleLog) : MerkleLog :=
  Foundation.Transition.runState (MerkleLog.append env) leaves log

def usizeTryFrom (env : LogEnv) (n : ℕ) : Option ℕ := if n < 2 ^ env.usizeBits then some n else none

def MerkleLog.checkedSize (env : LogEnv) (log : MerkleLog) (treeSize : ℕ) : Except Fault ℕ :=
  match (usizeTryFrom env treeSize).filter (· ≤ log.leaves.length) with
  | some n => .ok n
  | none =>
    let size := log.leaves.length
    .error (.error (.schemaViolation (s!"tree_size {treeSize} exceeds the current log size {size} " ++
      "(RFC-ACDP-0012 §8.2)")))

def sliceTo (hashes : List Digest) (n : ℕ) : Except Fault (List Digest) :=
  if n ≤ hashes.length then .ok (hashes.take n)
  else
    let length := hashes.length
    .error (.panic s!"range end index {n} out of range for slice of length {length}")

def expectSome {α : Type} (message : String) : Option α → Except Fault α
  | some a => .ok a
  | none => .error (.panic message)

def MerkleLog.rootAt (env : LogEnv) (log : MerkleLog) (treeSize : ℕ) : Except Fault Digest := do
  let n ← log.checkedSize env treeSize
  return merkleTreeHash (Hasher.ofSha256 env.sha256) (← sliceTo log.leafHashes n)

def LogSigner.mintLogCheckpoint (signer : LogSigner) (logId : String) (treeSize : ℕ) (rootHash : String)
    (timestamp : DateTime) : Except AcdpError LogCheckpoint := do
  let (did, _) ← parseLogId logId
  if did ≠ signer.registryDid then
    .error (.schemaViolation (s!"cannot mint a checkpoint for log_id '{logId}' under registry_did " ++
      s!"'{signer.registryDid}' (RFC-ACDP-0012 §6: the log_id embeds the registry's own DID)"))
  else
    let _ ← decodeSha256Hex rootHash
    let checkpoint : LogCheckpoint := {
      checkpointVersion := logCheckpointVersion
      logId := logId
      treeSize := treeSize
      rootHash := rootHash
      timestamp := timestamp.truncMs
      signature := ⟨signer.algorithm, signer.keyId, ""⟩ }
    let (algorithm, value) ← signer.sign checkpoint
    return { checkpoint with signature := ⟨algorithm, signer.keyId, value⟩ }

def MerkleLog.checkpointAt (env : LogEnv) (log : MerkleLog) (signer : LogSigner) (treeSize : ℕ)
    (timestamp : DateTime) : Except Fault LogCheckpoint := do
  let root ← log.rootAt env treeSize
  (signer.mintLogCheckpoint log.logId treeSize (encodeSha256Hex root) timestamp).mapError .error

def MerkleLog.inclusionProof (env : LogEnv) (log : MerkleLog) (leafIndex : ℕ)
    (checkpoint : LogCheckpoint) : Except Fault LogInclusion := do
  if checkpoint.logId ≠ log.logId then
    .error (.error (.schemaViolation (s!"checkpoint log_id '{checkpoint.logId}' is not this log " ++
      s!"('{log.logId}')")))
  else
    let n ← log.checkedSize env checkpoint.treeSize
    match (usizeTryFrom env leafIndex).filter (· < n) with
    | none => .error (.error (.schemaViolation (s!"leaf_index {leafIndex} is not < tree_size " ++
        s!"{checkpoint.treeSize} (RFC-ACDP-0012 §8.2)")))
    | some m =>
      let slice ← sliceTo log.leafHashes n
      let path ← expectSome "bounds checked above"
        (inclusionPath (Hasher.ofSha256 env.sha256) m slice)
      return {
        logId := log.logId
        leafIndex := leafIndex
        treeSize := checkpoint.treeSize
        inclusionPath := path.map encodeSha256Hex
        logCheckpoint := checkpoint
        leaf := none }

def MerkleLog.consistencyProof (env : LogEnv) (log : MerkleLog) (first second : ℕ) :
    Except Fault (List String) := do
  let n ← log.checkedSize env second
  if first = 0 ∨ second < first then
    .error (.error (.schemaViolation (s!"consistency proof requires 0 < first ({first}) ≤ second " ++
      s!"({second}) (RFC-ACDP-0012 §8.2)")))
  else
    let m ← expectSome "first ≤ second ≤ len" (usizeTryFrom env first)
    let slice ← sliceTo log.leafHashes n
    let path ← expectSome "bounds checked above"
      (Crypto.Merkle.consistencyProof (Hasher.ofSha256 env.sha256) m slice)
    return path.map encodeSha256Hex

end Acdp.Registry.Log
