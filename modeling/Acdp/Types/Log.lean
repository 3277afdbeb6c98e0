import Acdp.Types.Body
import Acdp.Crypto.Hash

namespace Acdp.Types

open Acdp.Crypto (utf8 hexEncode)
open Acdp.Crypto.Merkle (Digest)

structure LogLeaf where
  leafVersion : String
  ctxId : CtxId
  lineageId : LineageId
  originRegistry : String
  createdAt : DateTime
  contentHash : ContentHash
  keyFingerprint : String
  receiptHash : String
deriving DecidableEq, Repr

structure LogCheckpoint where
  checkpointVersion : String
  logId : String
  treeSize : ℕ
  rootHash : String
  timestamp : DateTime
  signature : Signature
deriving DecidableEq, Repr

structure LogInclusion where
  logId : String
  leafIndex : ℕ
  treeSize : ℕ
  inclusionPath : List String
  logCheckpoint : LogCheckpoint
  leaf : Option LogLeaf
deriving DecidableEq, Repr

def logLeafVersion : String := "acdp-log-leaf/1"

def logCheckpointVersion : String := "acdp-log/1"

def encodeSha256Hex (digest : Digest) : String := "sha256:" ++ hexEncode digest

def hexValue (c : Char) : ℕ := if Text.isAsciiDigit c then c.toNat - 48 else c.toNat - 87

def hexPairs : List Char → List UInt8
  | hi :: lo :: rest => UInt8.ofNat (16 * hexValue hi + hexValue lo) :: hexPairs rest
  | _ => []

def isLowerHex (c : Char) : Bool := Text.isAsciiDigit c || ('a' ≤ c && c ≤ 'f')

def sizedBytes (n : ℕ) (bytes : List UInt8) : Option (Vector UInt8 n) :=
  if h : bytes.length = n then some ⟨bytes.toArray, by simp [h]⟩ else none

def decodeSha256Hex (prefixed : String) : Except AcdpError Digest :=
  match Text.stripPrefix "sha256:" prefixed with
  | none => .error (.invalidLogProof
      s!"hash '{prefixed}' is not of the form 'sha256:<hex>' (RFC-ACDP-0012 §2)")
  | some hexPart =>
    if hexPart.utf8ByteSize ≠ 64 ∨ ¬ hexPart.toList.all isLowerHex then
      .error (.invalidLogProof (s!"hash '{prefixed}' is not 'sha256:' + 64 lowercase hex digits " ++
        "(RFC-ACDP-0012 §2)"))
    else match sizedBytes 32 (hexPairs hexPart.toList) with
      | some digest => .ok digest
      | none => .error (.invalidLogProof s!"hash '{prefixed}' does not encode 32 bytes")

def isDidWebChar (c : Char) : Bool :=
  Text.isAsciiAlphanumeric c || c == '.' || c == '%' || c == ':' || c == '-'

def isInstanceChar (c : Char) : Bool :=
  Text.isAsciiLowercase c || Text.isAsciiDigit c || c == '-'

def parseLogId (logId : String) : Except AcdpError (String × String) :=
  match Text.splitOnce "/log/" logId with
  | none => .error (.invalidLogProof
      s!"log_id '{logId}' is not '<registry_did>/log/<instance>' (RFC-ACDP-0012 §6)")
  | some (did, inst) =>
    match Text.stripPrefix "did:web:" did with
    | none => .error (.invalidLogProof
        s!"log_id '{logId}' registry DID must be did:web (RFC-ACDP-0012 §6)")
    | some msi =>
      if msi = "" ∨ ¬ msi.toList.all isDidWebChar then
        .error (.invalidLogProof
          s!"log_id '{logId}' has a malformed did:web method-specific identifier")
      else if inst = "" ∨ 32 < inst.utf8ByteSize ∨ ¬ inst.toList.all isInstanceChar then
        .error (.invalidLogProof (s!"log_id '{logId}' instance component must match " ++
          "[a-z0-9-]\x7b1,32\x7d (RFC-ACDP-0012 §6)"))
      else .ok (did, inst)

/-- The library code the log calls: serde's derived codec of a leaf, chrono's RFC 3339 parser, JCS and
SHA-256, together with the width of `usize`. -/
structure LogEnv where
  leafToValue : LogLeaf → Except AcdpError Json
  leafDeserialize : Json → Except String LogLeaf
  parseFromRfc3339 : String → Except String DateTime
  canonicalize : Json → Except AcdpError (List UInt8)
  sha256 : List UInt8 → Digest
  usizeBits : ℕ

def isCanonicalMsUtc (env : LogEnv) (raw : String) : Bool :=
  let b := utf8 raw
  b.length == 24 && b[10]? == some 84 && b[19]? == some 46 && b[23]? == some 90 &&
    ((b.drop 20).take 3).all (fun d => 48 ≤ d && d ≤ 57) && (env.parseFromRfc3339 raw).isOk

def LogLeaf.fromValue (env : LogEnv) (value : Json) : Except AcdpError LogLeaf :=
  match env.leafDeserialize value with
  | .error e => .error (.invalidLogProof s!"log leaf does not parse: {e}")
  | .ok leaf =>
    if leaf.leafVersion ≠ logLeafVersion then
      .error (.invalidLogProof (s!"log leaf leaf_version '{leaf.leafVersion}' ≠ '{logLeafVersion}' " ++
        "(RFC-ACDP-0012 §4)"))
    else match (value.get "created_at").bind Json.asStr with
      | none => .error (.invalidLogProof "log leaf created_at missing or not a string")
      | some raw =>
        if isCanonicalMsUtc env raw then .ok leaf
        else .error (.invalidLogProof (s!"log leaf created_at '{raw}' is not canonical " ++
          "millisecond-precision RFC 3339 UTC (`YYYY-MM-DDTHH:MM:SS.mmmZ`, RFC-ACDP-0012 §4)"))

def LogLeaf.canonicalBytes (env : LogEnv) (leaf : LogLeaf) : Except AcdpError (List UInt8) := do
  env.canonicalize (← env.leafToValue leaf)

def LogLeaf.leafHash (env : LogEnv) (leaf : LogLeaf) : Except AcdpError Digest := do
  return Crypto.Merkle.leafHash env.sha256 (← leaf.canonicalBytes env)

end Acdp.Types
