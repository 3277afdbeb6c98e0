import Acdp.Types.Keyless
import Acdp.Types.Serialize

namespace Acdp.Validation

open Acdp.Types
open Acdp.Crypto (utf8)

/-- Further library functions the publish path calls: the padded base64 decoder, serde's derived decoder of a
publish request and `{:?}` of the standard library. -/
structure PublishEnv extends WireEnv where
  base64Decode : String → Except String (List UInt8)
  requestDeserialize : Json → Except String PublishRequest
  debugStr : String → String
  debugAnchor : AnchorEntry → String

def maxTitleLen : ℕ := 500
def maxDescriptionLen : ℕ := 5000
def maxSummaryLen : ℕ := 1000
def maxDomainLen : ℕ := 200
def maxDataRefDescriptionLen : ℕ := 1000
def maxTagLen : ℕ := 100
def maxContributors : ℕ := 100
def maxTags : ℕ := 200
def maxDerivedFrom : ℕ := 1000
def maxAudience : ℕ := 1000
def maxMetadataProperties : ℕ := 100
def maxMetadataDepth : ℕ := 8
def maxMetadataJcsBytes : ℕ := 65536
def maxUriLen : ℕ := 4096
def maxAnchors : ℕ := 100
def maxEmbeddedBytes : ℕ := 65536
def ed25519SigB64Len : ℕ := 88
def ecdsaP256SigB64Len : ℕ := 88

section Strings

def validateTitle (title : String) : Except AcdpError Unit :=
  if title = "" ∨ maxTitleLen < title.length then
    .error (.schemaViolation s!"title length {title.length} not in 1..={maxTitleLen}")
  else .ok ()

def validateOptionalString (s : Option String) (name : String) (maxLen : ℕ) : Except AcdpError Unit :=
  s.forM (fun value =>
    if maxLen < value.length then .error (.schemaViolation s!"{name} length {value.length} exceeds {maxLen}")
    else .ok ())

def firstDuplicate {α : Type} (eq : α → α → Bool) : List α → Option α
  | [] => none
  | item :: rest => if rest.any (fun other => eq other item) then some item else firstDuplicate eq rest

def validateUniqueArray {α : Type} (eq : α → α → Bool) (debug : α → String) (name : String) (items : List α)
    (max : ℕ) : Except AcdpError Unit :=
  if max < items.length then .error (.schemaViolation s!"{name} has {items.length} items, exceeds {max}")
  else match firstDuplicate eq items with
    | some item => .error (.schemaViolation (s!"{name} contains duplicate entry: " ++ debug item))
    | none => .ok ()

def isTagChar (c : Char) : Bool := Text.isAsciiAlphanumeric c || c == '_' || c == '.' || c == '-'

def validateTag (tag : String) : Except AcdpError Unit :=
  if tag = "" ∨ maxTagLen < tag.utf8ByteSize then
    .error (.schemaViolation s!"tag '{tag}' length not in 1..={maxTagLen}")
  else if ¬ tag.toList.head?.any Text.isAsciiAlphanumeric then
    .error (.schemaViolation s!"tag '{tag}' first char must be alphanumeric")
  else if ¬ tag.toList.tail.all isTagChar then
    .error (.schemaViolation s!"tag '{tag}' must match [A-Za-z0-9][A-Za-z0-9_.-]*")
  else .ok ()

def validateTags (tags : List String) : Except AcdpError Unit := do
  if maxTags < tags.length then
    .error (.schemaViolation s!"tags has {tags.length} entries, exceeds {maxTags}")
  tags.forM validateTag
  match firstDuplicate (· == ·) tags with
  | some tag => .error (.schemaViolation s!"tags contains duplicate entry: {tag}")
  | none => .ok ()

def isDottedTriple (v : String) : Bool :=
  (Text.split '.' v).length == 3 &&
    (Text.split '.' v).all (fun part => part ≠ "" && part.toList.all Text.isAsciiDigit)

def validateSemverPattern (name value : String) : Except AcdpError Unit :=
  if ¬ isDottedTriple value then
    .error (.schemaViolation s!"{name} '{value}' must match the semver pattern ^\\d+\\.\\d+\\.\\d+$")
  else .ok ()

def validateVersion (req : PublishRequest) : Except AcdpError Unit :=
  match req.supersedes with
  | none =>
    if req.version = 1 then .ok ()
    else .error (.schemaViolation s!"first-version publish requires version=1, got {req.version}")
  | some _ =>
    if 2 ≤ req.version then .ok ()
    else .error (.schemaViolation s!"supersession publish requires version >= 2, got {req.version}")

end Strings

section Identities

def validateDidKeyKeyIdForm (env : Env) (keyId : String) : Except AcdpError Unit :=
  if ¬ Text.hasPrefix "did:key:" keyId then .ok ()
  else (resolveDidKeyUrl env keyId).map (fun _ => ())

def validateAgentDid (env : Env) (did : AgentDid) (resolve : Bool) : Except AcdpError Unit :=
  if Text.hasPrefix "did:key:" did then do
    let _ ← AgentDid.parse did
    if ¬ resolve then return ()
    let _ ← resolveDidKey env did
  else (AgentDid.parseWeb did).map (fun _ => ())

def validateLooseDid (did : AgentDid) : Except AcdpError Unit := (AgentDid.parse did).map (fun _ => ())

def validateOriginRegistry (s : String) : Except AcdpError Unit :=
  if s = "" then .error (.schemaViolation "origin_registry must be a non-empty DNS hostname")
  else if Text.hasPrefix "did:" s then
    .error (.schemaViolation (s!"origin_registry must be a DNS hostname, not a DID URI (got '{s}'); " ++
      "use the bare authority — capabilities.registry_did carries the did:web form"))
  else if Text.contains s "://" then
    .error (.schemaViolation s!"origin_registry must be a DNS hostname, not a URL (got '{s}')")
  else if s.toList.getLast? = some '.' ∨ s.toList.head? = some '.' then
    .error (.schemaViolation s!"origin_registry must be a syntactically valid DNS hostname (got '{s}')")
  else if ¬ isValidDnsAuthority s then
    .error (.schemaViolation (s!"origin_registry '{s}' is not a valid DNS hostname (must be lowercase " ++
      "labels of [a-z0-9-] separated by dots, e.g. 'registry.example.com')"))
  else .ok ()

def validateSignatureLength (algorithm valueB64 : String) : Except AcdpError Unit :=
  let expected := if algorithm = "ed25519" then some ed25519SigB64Len
    else if algorithm = "ecdsa-p256" then some ecdsaP256SigB64Len else none
  expected.forM (fun n =>
    if valueB64.utf8ByteSize ≠ n then
      .error (.invalidSignature (s!"signature.value for '{algorithm}' must be {n} base64 chars, got " ++
        toString valueB64.utf8ByteSize))
    else .ok ())

def validateVisibilityAudience (vis : Visibility) (audience : Option (List AgentDid)) :
    Except AcdpError Unit :=
  match vis with
  | .restricted =>
    if audience.all (·.isEmpty) then
      .error (.schemaViolation "visibility:restricted requires a non-empty audience")
    else .ok ()
  | .public =>
    if audience.any (fun a => !a.isEmpty) then
      .error (.schemaViolation "visibility:public MUST NOT include audience")
    else .ok ()
  | .private => .ok ()

def isNamed (p : Char → Bool) (s : String) : Bool :=
  s ≠ "" && s.toList.head?.any Text.isAsciiLowercase && s.toList.all p

def isNamespaceChar (c : Char) : Bool := Text.isAsciiLowercase c || Text.isAsciiDigit c || c == '_'

def validateNamespacedContextType (value : String) : Except AcdpError Unit :=
  match Text.splitOnceChar ':' value with
  | none => .error (.schemaViolation s!"context_type '{value}' missing namespace separator")
  | some (ns, name) =>
    if ¬ isNamed isNamespaceChar ns then
      .error (.schemaViolation s!"context_type namespace '{ns}' must match [a-z][a-z0-9_]*")
    else if ¬ isNamed (fun c => isNamespaceChar c || c == '-') name then
      .error (.schemaViolation s!"context_type name '{name}' must match [a-z][a-z0-9_-]*")
    else .ok ()

def namespacedForm : ContextType → Option String
  | .custom s => some s
  | _ => none

end Identities

end Acdp.Validation
