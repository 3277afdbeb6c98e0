import Acdp.Types.Primitives
import Acdp.Crypto.Hash

namespace Acdp.Types

open Acdp.Crypto (utf8)

def isDnsLabel (label : String) : Bool :=
  label ≠ "" && label.utf8ByteSize ≤ 63 &&
    label.toList.head?.any (fun c => Text.isAsciiLowercase c || Text.isAsciiDigit c) &&
    label.toList.getLast?.any (fun c => Text.isAsciiLowercase c || Text.isAsciiDigit c) &&
    label.toList.all (fun c => Text.isAsciiLowercase c || Text.isAsciiDigit c || c == '-')

def isValidDnsAuthority (s : String) : Bool :=
  s ≠ "" && s.utf8ByteSize ≤ 253 && (Text.split '.' s).all isDnsLabel

def isAsciiDigitByte (b : UInt8) : Bool := 48 ≤ b && b ≤ 57

def isLowerHexByte (b : UInt8) : Bool := isAsciiDigitByte b || (97 ≤ b && b ≤ 102)

def isCanonicalUuid (s : String) : Bool :=
  let b := utf8 s
  b.length == 36 && b.zipIdx.all (fun p =>
    if p.2 = 8 ∨ p.2 = 13 ∨ p.2 = 18 ∨ p.2 = 23 then p.1 == 45 else isLowerHexByte p.1)

def isValidUuidV4 (s : String) : Bool :=
  isCanonicalUuid s && (utf8 s)[14]? == some 52 &&
    ((utf8 s)[19]?).any (fun b => b == 56 || b == 57 || b == 97 || b == 98)

def CtxId.parse (s : String) : Except AcdpError CtxId :=
  match Text.stripPrefix "acdp://" s with
  | none => .error (.schemaViolation s!"ctx_id must start with 'acdp://', got: {s}")
  | some rest =>
    match Text.splitOnceChar '/' rest with
    | none => .error (.schemaViolation s!"ctx_id missing '/<uuid>': {s}")
    | some (authority, uuid) =>
      if ¬ isValidDnsAuthority authority then
        .error (.schemaViolation s!"ctx_id authority '{authority}' is not a lowercase DNS hostname")
      else if ¬ isValidUuidV4 uuid then
        .error (.schemaViolation s!"ctx_id uuid '{uuid}' is not a lowercase v4 UUID")
      else .ok s

def isLowerHex64 (s : String) : Bool :=
  s.utf8ByteSize == 64 && s.toList.all (fun c => Text.isAsciiDigit c || ('a' ≤ c && c ≤ 'f'))

def isSha256Digest (s : String) : Bool := (Text.stripPrefix "sha256:" s).any isLowerHex64

def ContentHash.parse (s : String) : Except AcdpError ContentHash :=
  match Text.stripPrefix "sha256:" s with
  | none => .error (.schemaViolation s!"content_hash must start with 'sha256:', got: {s}")
  | some hex =>
    if ¬ isLowerHex64 hex then
      .error (.schemaViolation s!"content_hash digest must be 64 lowercase hex chars, got: {hex}")
    else .ok s

def LineageId.parse (s : String) : Except AcdpError LineageId :=
  match Text.stripPrefix "lin:sha256:" s with
  | none => .error (.schemaViolation s!"lineage_id must start with 'lin:sha256:', got: {s}")
  | some hex =>
    if ¬ isLowerHex64 hex then
      .error (.schemaViolation s!"lineage_id digest must be 64 lowercase hex chars, got: {hex}")
    else .ok s

def isDidMethodChar (c : Char) : Bool := Text.isAsciiLowercase c || Text.isAsciiDigit c

def isDidIdChar (c : Char) : Bool :=
  Text.isAsciiAlphanumeric c || c == '.' || c == '_' || c == ':' || c == '%' || c == '-'

def AgentDid.parse (s : String) : Except AcdpError AgentDid :=
  if s.utf8ByteSize < 7 ∨ 2048 < s.utf8ByteSize then
    .error (.schemaViolation ("DID length " ++ toString s.utf8ByteSize ++ " not in 7..=2048"))
  else match Text.stripPrefix "did:" s with
    | none => .error (.schemaViolation s!"DID missing 'did:' prefix: {s}")
    | some rest =>
      match Text.splitOnceChar ':' rest with
      | none => .error (.schemaViolation s!"DID must have method:id form: {s}")
      | some (method, id) =>
        if method = "" ∨ ¬ method.toList.all isDidMethodChar then
          .error (.schemaViolation s!"DID method '{method}' must match [a-z0-9]+")
        else if id = "" ∨ ¬ id.toList.all isDidIdChar then
          .error (.schemaViolation s!"DID method-specific id '{id}' contains invalid characters")
        else .ok s

def AgentDid.parseWeb (s : String) : Except AcdpError AgentDid := do
  let parsed ← AgentDid.parse s
  if Text.hasPrefix "did:web:" parsed then return parsed
  else .error (.schemaViolation s!"v0.1.0 producers MUST use did:web; got: {parsed}")

def keylessFragmentPrefix : String := "acdp-kl-"

def isKeylessKeyId (keyId : String) : Bool :=
  (Text.splitOnceChar '#' keyId).any (fun p => Text.hasPrefix keylessFragmentPrefix p.2)

end Acdp.Types
