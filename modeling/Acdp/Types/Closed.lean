import Acdp.Types.LogProof
import Acdp.Types.Serialize

namespace Acdp.Types

open Acdp.Crypto

namespace Json

/-- What serde's derived visitor of a struct with `deny_unknown_fields` reads its fields from. An array holds
the fields in the order of their declaration. -/
def closedMembers (names : List String) : Json → Option (List (String × Json))
  | .obj members => if members.all (fun m => m.1 ∈ names) then some members else none
  | .arr items => if items.length = names.length then some (names.zip items) else none
  | _ => none

def asUInt (bits : ℕ) : Json → Option ℕ
  | .num (.posInt n) => if n.toNat < 2 ^ bits then some n.toNat else none
  | _ => none

def isObject : Json → Bool
  | .obj _ => true
  | _ => false

def ofUInt (n : ℕ) : Json := .num (.posInt (UInt64.ofNat n))

end Json

section Fields

variable (members : List (String × Json)) (key : String)

def strField : Option String := (members.lookup key).bind Json.asStr

def uintField (bits : ℕ) : Option ℕ := (members.lookup key).bind (Json.asUInt bits)

def msField (env : LogEnv) : Option DateTime :=
  (strField members key).bind (fun raw => (env.parseFromRfc3339 raw).toOption)

end Fields

def Signature.read (v : Json) : Option Signature := do
  let members ← v.closedMembers ["algorithm", "key_id", "value"]
  return {
    algorithm := ← strField members "algorithm"
    keyId := ← strField members "key_id"
    value := ← strField members "value" }

namespace LogLeaf

def names : List String :=
  ["leaf_version", "ctx_id", "lineage_id", "origin_registry", "created_at", "content_hash", "key_fingerprint",
    "receipt_hash"]

def read (env : LogEnv) (v : Json) : Option LogLeaf := do
  let members ← v.closedMembers names
  return {
    leafVersion := ← strField members "leaf_version"
    ctxId := ← strField members "ctx_id"
    lineageId := ← strField members "lineage_id"
    originRegistry := ← strField members "origin_registry"
    createdAt := ← msField members "created_at" env
    contentHash := ← strField members "content_hash"
    keyFingerprint := ← strField members "key_fingerprint"
    receiptHash := ← strField members "receipt_hash" }

def members (env : Env) (l : LogLeaf) : List (String × Json) :=
  [("leaf_version", .str l.leafVersion), ("ctx_id", .str l.ctxId), ("lineage_id", .str l.lineageId),
    ("origin_registry", .str l.originRegistry), ("created_at", .str (env.fmtRfc3339Ms l.createdAt)),
    ("content_hash", .str l.contentHash), ("key_fingerprint", .str l.keyFingerprint),
    ("receipt_hash", .str l.receiptHash)]

def toValue (env : Env) (l : LogLeaf) : Json := .obj (l.members env)

end LogLeaf

def signedMembers (unsigned : List (String × Json)) (signature : Signature) : List (String × Json) :=
  unsigned ++ [("signature", signature.toValue)]

namespace LogCheckpoint

def names : List String :=
    ["checkpoint_version", "log_id", "tree_size", "root_hash", "timestamp", "signature"]

def read (env : LogEnv) (v : Json) : Option LogCheckpoint := do
  let members ← v.closedMembers names
  return {
    checkpointVersion := ← strField members "checkpoint_version"
    logId := ← strField members "log_id"
    treeSize := ← uintField members "tree_size" 64
    rootHash := ← strField members "root_hash"
    timestamp := ← msField members "timestamp" env
    signature := ← (members.lookup "signature").bind Signature.read }

def unsigned (env : Env) (c : LogCheckpoint) : List (String × Json) :=
  [("checkpoint_version", .str c.checkpointVersion), ("log_id", .str c.logId),
    ("tree_size", Json.ofUInt c.treeSize), ("root_hash", .str c.rootHash),
    ("timestamp", .str (env.fmtRfc3339Ms c.timestamp))]

def toValue (env : Env) (c : LogCheckpoint) : Json := .obj (signedMembers (c.unsigned env) c.signature)

def preimageHash (env : Env) (c : LogCheckpoint) : Except AcdpError ContentHash :=
  preimageHashOfValue env (c.toValue env)

end LogCheckpoint

def Status.patternOk (s : String) : Bool :=
  s ≠ "" && s.utf8ByteSize ≤ 64 && s.toList.head?.any Text.isAsciiLowercase &&
    s.toList.all (fun c => Text.isAsciiLowercase c || Text.isAsciiDigit c || c == '_')

def Status.parse (s : String) : Except AcdpError Status :=
  if s = "active" then .ok .active
  else if s = "superseded" then .ok .superseded
  else if s = "expired" then .ok .expired
  else if s = "retracted" then .ok .retracted
  else if ¬ Status.patternOk s then
    .error (.schemaViolation (s!"status '{s}' does not match the open-enum pattern " ++
      "^[a-z][a-z0-9_]*$ (length 1..=64)"))
  else .ok (.other s)

def lineageHeadReceiptVersion : String := "acdp-lhr/1"

structure LineageHeadReceipt where
  receiptVersion : String
  registryDid : String
  lineageId : LineageId
  headCtxId : CtxId
  headVersion : UInt32
  headStatus : String
  asOf : DateTime
  signature : Signature
deriving DecidableEq, Repr

structure HeadEnv extends Env where
  headReceiptDeserialize : Json → Except String LineageHeadReceipt

namespace LineageHeadReceipt

def names : List String :=
  ["receipt_version", "registry_did", "lineage_id", "head_ctx_id", "head_version", "head_status",
    "as_of", "signature"]

def read (env : LogEnv) (v : Json) : Option LineageHeadReceipt := do
  let members ← v.closedMembers names
  return {
    receiptVersion := ← strField members "receipt_version"
    registryDid := ← strField members "registry_did"
    lineageId := ← strField members "lineage_id"
    headCtxId := ← strField members "head_ctx_id"
    headVersion := UInt32.ofNat (← uintField members "head_version" 32)
    headStatus := ← strField members "head_status"
    asOf := ← msField members "as_of" env
    signature := ← (members.lookup "signature").bind Signature.read }

def unsigned (env : Env) (r : LineageHeadReceipt) : List (String × Json) :=
  [("receipt_version", .str r.receiptVersion), ("registry_did", .str r.registryDid),
    ("lineage_id", .str r.lineageId), ("head_ctx_id", .str r.headCtxId),
    ("head_version", Json.ofUInt r.headVersion.toNat), ("head_status", .str r.headStatus),
    ("as_of", .str (env.fmtRfc3339Ms r.asOf))]

def toValue (env : Env) (r : LineageHeadReceipt) : Json := .obj (signedMembers (r.unsigned env) r.signature)

def validateAsOfForm (env : Env) (value : Json) : Except AcdpError Unit :=
  match (value.get "as_of").bind Json.asStr with
  | none => .error (.invalidReceipt "lineage_head_receipt as_of missing or not a string")
  | some raw =>
    if isCanonicalMsUtc env.toLogEnv raw then .ok ()
    else .error (.invalidReceipt (s!"lineage_head_receipt as_of '{raw}' is not canonical " ++
      "millisecond-precision RFC 3339 UTC (`YYYY-MM-DDTHH:MM:SS.mmmZ`, RFC-ACDP-0011 §4)"))

def fromValue (env : HeadEnv) (value : Json) : Except AcdpError LineageHeadReceipt :=
  match env.headReceiptDeserialize value with
  | .error e => .error (.invalidReceipt s!"lineage_head_receipt does not parse: {e}")
  | .ok r =>
    if r.receiptVersion ≠ lineageHeadReceiptVersion then
      .error (.invalidReceipt ("lineage_head_receipt receipt_version '" ++ r.receiptVersion ++ "' ≠ '" ++
        lineageHeadReceiptVersion ++ "' (RFC-ACDP-0011 §4)"))
    else if r.headVersion < 1 then
      .error (.invalidReceipt "lineage_head_receipt head_version must be >= 1")
    else match Status.parse r.headStatus with
      | .error e => .error (.invalidReceipt ("lineage_head_receipt head_status: " ++ e.display))
      | .ok status =>
        if status = .superseded ∨ status = .retracted then
          .error (.invalidReceipt ("lineage_head_receipt head_status must never be '" ++ r.headStatus ++
            "' (RFC-ACDP-0011 §4: a superseded version is never the head; RFC-ACDP-0013 §8.3: a retracted " ++
            "version is never served as head)"))
        else if ¬ Text.hasPrefix "did:web:" r.registryDid then
          .error (.invalidReceipt ("lineage_head_receipt registry_did '" ++ r.registryDid ++
            "' must be did:web (RFC-ACDP-0011 §4)"))
        else do
          validateAsOfForm env.toEnv value
          return r

def preimageHashOfValue (env : Env) (value : Json) : Except AcdpError ContentHash :=
  preimageHashOfObjectWith env value "lineage_head_receipt" .invalidReceipt

def preimageHash (env : Env) (r : LineageHeadReceipt) : Except AcdpError ContentHash :=
  preimageHashOfValue env (r.toValue env)

end LineageHeadReceipt

namespace EventReceipt

def names : List String :=
  ["receipt_type", "registry_did", "ctx_id", "event_id", "event_hash", "index", "accepted_at", "signature"]

def read (env : LogEnv) (v : Json) : Option EventReceipt := do
  let members ← v.closedMembers names
  return {
    receiptType := ← strField members "receipt_type"
    registryDid := ← strField members "registry_did"
    ctxId := ← strField members "ctx_id"
    eventId := ← strField members "event_id"
    eventHash := ← strField members "event_hash"
    index := UInt64.ofNat (← uintField members "index" 64)
    acceptedAt := ← msField members "accepted_at" env
    signature := ← (members.lookup "signature").bind Signature.read }

def unsigned (env : Env) (r : EventReceipt) : List (String × Json) :=
  [("receipt_type", .str r.receiptType), ("registry_did", .str r.registryDid), ("ctx_id", .str r.ctxId),
    ("event_id", .str r.eventId), ("event_hash", .str r.eventHash), ("index", Json.ofUInt r.index.toNat),
    ("accepted_at", .str (env.fmtRfc3339Ms r.acceptedAt))]

def toValue (env : Env) (r : EventReceipt) : Json := .obj (signedMembers (r.unsigned env) r.signature)

def preimageHash (env : Env) (r : EventReceipt) : Except AcdpError ContentHash :=
  preimageHashOfValue env (r.toValue env)

end EventReceipt

namespace WitnessedCheckpoint

def names : List String := ["log_id", "tree_size", "root_hash", "timestamp"]

def read (env : LogEnv) (v : Json) : Option WitnessedCheckpoint := do
  let members ← v.closedMembers names
  return {
    logId := ← strField members "log_id"
    treeSize := ← uintField members "tree_size" 64
    rootHash := ← strField members "root_hash"
    timestamp := ← msField members "timestamp" env }

def members (env : Env) (c : WitnessedCheckpoint) : List (String × Json) :=
  [("log_id", .str c.logId), ("tree_size", Json.ofUInt c.treeSize), ("root_hash", .str c.rootHash),
    ("timestamp", .str (env.fmtRfc3339Ms c.timestamp))]

def toValue (env : Env) (c : WitnessedCheckpoint) : Json := .obj (c.members env)

end WitnessedCheckpoint

namespace LogCosignature

def names : List String :=
  ["cosignature_version", "witness_id", "witnessed_checkpoint", "witnessed_at", "signature"]

def read (env : LogEnv) (v : Json) : Option LogCosignature := do
  let members ← v.closedMembers names
  return {
    cosignatureVersion := ← strField members "cosignature_version"
    witnessId := ← strField members "witness_id"
    witnessedCheckpoint := ← (members.lookup "witnessed_checkpoint").bind (WitnessedCheckpoint.read env)
    witnessedAt := ← msField members "witnessed_at" env
    signature := ← (members.lookup "signature").bind Signature.read }

def unsigned (env : Env) (c : LogCosignature) : List (String × Json) :=
  [("cosignature_version", .str c.cosignatureVersion), ("witness_id", .str c.witnessId),
    ("witnessed_checkpoint", c.witnessedCheckpoint.toValue env),
    ("witnessed_at", .str (env.fmtRfc3339Ms c.witnessedAt))]

def toValue (env : Env) (c : LogCosignature) : Json := .obj (signedMembers (c.unsigned env) c.signature)

def preimageHash (env : Env) (c : LogCosignature) : Except AcdpError ContentHash :=
  preimageHashOfValue env (c.toValue env)

end LogCosignature

end Acdp.Types
