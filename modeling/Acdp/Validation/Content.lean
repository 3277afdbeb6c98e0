import Acdp.Validation.Fields

namespace Acdp.Validation

open Acdp.Types
open Acdp.Crypto (utf8)

section DataRefs

def embeddedDecodedBytes (env : PublishEnv) (emb : EmbeddedContent) : Except AcdpError (List UInt8) :=
  match emb.encoding with
  | .json => env.canonicalize emb.content
  | .utf8 =>
    match emb.content.asStr with
    | none => .error (.schemaViolation "utf8 embedded content must be a JSON string")
    | some s => .ok (utf8 s)
  | .base64 =>
    match emb.content.asStr with
    | none => .error (.schemaViolation "base64 embedded content must be a JSON string")
    | some s =>
      match env.base64Decode s with
      | .error e => .error (.schemaViolation s!"base64 decode failed: {e}")
      | .ok bytes => .ok bytes

def computeEmbeddedHash (env : PublishEnv) (emb : EmbeddedContent) : Except AcdpError ContentHash := do
  return encodeSha256Hex (env.sha256 (← embeddedDecodedBytes env emb))

def verifyEmbeddedHash (env : PublishEnv) (dr : DataRef) : Except AcdpError Unit :=
  match dr.embedded with
  | none => .ok ()
  | some emb =>
    match emb.contentHash with
    | none => .ok ()
    | some embeddedHash => do
      let recomputed ← computeEmbeddedHash env emb
      if recomputed ≠ embeddedHash then
        .error (.dataRefHashMismatch
          s!"embedded.content_hash mismatch: declared {embeddedHash}, computed {recomputed}")

def EmbeddedEncoding.debug : EmbeddedEncoding → String
  | .json => "Json"
  | .utf8 => "Utf8"
  | .base64 => "Base64"

def validateEmbedded (env : PublishEnv) (emb : EmbeddedContent) : Except AcdpError Unit := do
  if emb.encoding ≠ .json ∧ emb.content.asStr.isNone then
    .error (.schemaViolation ("embedded " ++ EmbeddedEncoding.debug emb.encoding ++
      " content MUST be a JSON string"))
  emb.contentHash.forM (fun ch => (ContentHash.parse ch).map (fun _ => ()))
  let decoded ← embeddedDecodedBytes env emb
  if maxEmbeddedBytes < decoded.length then
    .error (.embeddedTooLarge
    s!"embedded decoded size {decoded.length} bytes exceeds {maxEmbeddedBytes} limit")

def isSchemeChar (c : Char) : Bool :=
  Text.isAsciiLowercase c || Text.isAsciiDigit c || c == '+' || c == '.' || c == '-'

def validateUriLocation (uri : String) : Except AcdpError Unit :=
  if uri.utf8ByteSize < 3 ∨ maxUriLen < uri.utf8ByteSize then
    .error (.schemaViolation ("DataRef.location URI length " ++ toString uri.utf8ByteSize ++ " not in 3..=" ++
      toString maxUriLen))
  else match Text.splitOnceChar ':' uri with
    | none => .error (.schemaViolation s!"URI missing scheme: {uri}")
    | some (scheme, rest) =>
      if ¬ isNamed isSchemeChar scheme then
        .error (.schemaViolation s!"URI scheme '{scheme}' invalid; must match [a-z][a-z0-9+.-]*")
      else match Text.stripPrefix "//" rest with
        | none => .ok ()
        | some afterSlashes =>
          if '@' ∈ afterSlashes.toList.takeWhile (fun c => c ≠ '/' && c ≠ '?' && c ≠ '#') then
            .error (.schemaViolation s!"URI MUST NOT contain credentials in userinfo: {uri}")
          else .ok ()

def isDottedNamespaceScheme (s : String) : Bool :=
  2 ≤ (Text.split '.' s).length && (Text.split '.' s).all
    (isNamed (fun c => Text.isAsciiLowercase c || Text.isAsciiDigit c || c == '-'))

def validateStructuredLocator (members : List (String × Json)) : Except AcdpError Unit :=
  match (members.lookup "scheme").bind Json.asStr with
  | none => .error (.schemaViolation "structured locator missing required 'scheme'")
  | some scheme =>
    if ¬ isDottedNamespaceScheme scheme then
      .error (.schemaViolation (s!"structured locator scheme '{scheme}' must match " ++
        "^[a-z][a-z0-9-]*(\\.[a-z][a-z0-9-]*)+$"))
    else .ok ()

def validateLocation : Location → Except AcdpError Unit
  | .uri uri => validateUriLocation uri
  | .structured members => validateStructuredLocator members

def validateDataRefStructural (env : PublishEnv) (dr : DataRef) : Except AcdpError Unit := do
  match dr.location, dr.embedded with
  | none, none => .error (.schemaViolation
      "DataRef requires exactly one of 'location' or 'embedded' (got neither)")
  | some _, some _ => .error (.schemaViolation
      "DataRef requires exactly one of 'location' or 'embedded' (got both)")
  | _, _ => .ok ()
  dr.contentHash.forM (fun ch => (ContentHash.parse ch).map (fun _ => ()))
  dr.description.forM (fun desc =>
    if maxDataRefDescriptionLen < desc.utf8ByteSize then
      .error (.schemaViolation ("DataRef.description " ++ toString desc.utf8ByteSize ++ " chars exceeds " ++
        toString maxDataRefDescriptionLen ++ " limit"))
    else .ok ())
  dr.location.forM validateLocation
  dr.embedded.forM (validateEmbedded env)

def validateDataRef (env : PublishEnv) (dr : DataRef) : Except AcdpError Unit := do
  validateDataRefStructural env dr
  verifyEmbeddedHash env dr

end DataRefs

section Objects

mutual

def depthScan : ℕ → Json → ℕ
  | 0, _ => 1
  | budget + 1, .arr items => 1 + depthScanItems budget items
  | budget + 1, .obj members => 1 + depthScanMembers budget members
  | _ + 1, _ => 0

def depthScanItems : ℕ → List Json → ℕ
  | _, [] => 0
  | budget, v :: rest => max (depthScan budget v) (depthScanItems budget rest)

def depthScanMembers : ℕ → List (String × Json) → ℕ
  | _, [] => 0
  | budget, (_, v) :: rest => max (depthScan budget v) (depthScanMembers budget rest)

end

def maxJsonDepthScan : ℕ := 256

def jsonDepth (v : Json) : ℕ := depthScan maxJsonDepthScan v

def validateJsonObjectLimits (env : Env) (value : Json) (field : String) : Except AcdpError Unit :=
  match value.asObject with
  | none => .error (.schemaViolation s!"{field} must be a JSON object")
  | some members => do
    if maxMetadataProperties < members.length then
      .error (.schemaViolation (s!"{field} has {members.length} top-level properties, exceeds " ++
        toString maxMetadataProperties ++ " limit"))
    if maxMetadataDepth < jsonDepth value then
      .error (.schemaViolation (s!"{field} nesting depth " ++ toString (jsonDepth value) ++ " exceeds " ++
        toString maxMetadataDepth))
    let canonical ← env.canonicalize value
    if maxMetadataJcsBytes < canonical.length then
      .error (.schemaViolation (s!"{field} JCS-canonical size {canonical.length} bytes exceeds " ++
        toString maxMetadataJcsBytes))

def validateMetadata (env : Env) (value : Json) : Except AcdpError Unit :=
  validateJsonObjectLimits env value "metadata"

def validateExtensions (env : Env) (extensions : List (String × Json)) : Except AcdpError Unit :=
  if extensions.isEmpty then .ok () else validateJsonObjectLimits env (.obj extensions) "extensions"

def anchorEq (a b : AnchorEntry) : Bool :=
  a.scheme == b.scheme && a.contentHash == b.contentHash && a.uri == b.uri &&
    Json.valueEq (.obj a.extensions) (.obj b.extensions)

def validateAnchor (anchor : AnchorEntry) : Except AcdpError Unit := do
  if ¬ isDottedNamespaceScheme anchor.scheme then
    .error (.schemaViolation ("anchor scheme '" ++ anchor.scheme ++ "' must match " ++
      "^[a-z][a-z0-9-]*(\\.[a-z][a-z0-9-]*)+$ (RFC-ACDP-0016 §4)"))
  let _ ← ContentHash.parse anchor.contentHash

def validateAnchors (env : PublishEnv) (anchors : List AnchorEntry) : Except AcdpError Unit := do
  if anchors.isEmpty then
    .error (.schemaViolation
    ("anchors MUST be omitted entirely (never sent as an empty array) when there is " ++
      "nothing to anchor — the absent-when-empty convention (RFC-ACDP-0016 §4)"))
  validateUniqueArray anchorEq env.debugAnchor "anchors" anchors maxAnchors
  anchors.forM validateAnchor

def validateDataPeriod (dp : DataPeriod) : Except AcdpError Unit :=
  if dp.end < dp.start then
    .error (.schemaViolation "data_period.start must not be after data_period.end")
  else .ok ()

end Objects

section Aggregates

def debugWrapped (env : PublishEnv) (name s : String) : String := name ++ "(" ++ env.debugStr s ++ ")"

def validateAudience (env : PublishEnv) (audience : List AgentDid) : Except AcdpError Unit := do
  validateUniqueArray (· == ·) (debugWrapped env "AgentDid") "audience" audience maxAudience
  audience.forM validateLooseDid

def validatePublishRequest (env : PublishEnv) (req : PublishRequest) : Except AcdpError Unit := do
  validateTitle req.title
  validateOptionalString req.description "description" maxDescriptionLen
  validateOptionalString req.summary "summary" maxSummaryLen
  validateOptionalString req.domain "domain" maxDomainLen
  validateAgentDid env.toEnv req.agentId true
  req.contributors.forM validateLooseDid
  validateUniqueArray (· == ·) (debugWrapped env "AgentDid") "contributors" req.contributors maxContributors
  validateUniqueArray (· == ·) (debugWrapped env "CtxId") "derived_from" req.derivedFrom maxDerivedFrom
  req.tags.forM validateTags
  req.audience.forM (validateAudience env)
  validateVisibilityAudience req.visibility req.audience
  req.dataPeriod.forM validateDataPeriod
  (namespacedForm req.contextType).forM validateNamespacedContextType
  req.metadata.forM (validateMetadata env.toEnv)
  req.dataRefs.forM (validateDataRef env)
  req.anchors.forM (validateAnchors env)
  req.keyAttestation.forM KeyAttestationRef.validate
  checkKeyAttestationPresence req.signature.keyId req.keyAttestation.isSome
  validateSignatureLength req.signature.algorithm req.signature.value
  validateDidKeyKeyIdForm env.toEnv req.signature.keyId
  let _ ← ContentHash.parse req.contentHash
  req.supersedes.forM (fun prev => (CtxId.parse prev).map (fun _ => ()))
  req.derivedFrom.forM (fun ancestor => (CtxId.parse ancestor).map (fun _ => ()))
  req.lineageId.forM (fun lineage => (LineageId.parse lineage).map (fun _ => ()))
  req.acdpVersion.forM (validateSemverPattern "acdp_version")
  validateVersion req
  if req.version = 1 ∧ req.lineageId.isSome then
    .error (.schemaViolation "lineage_id MUST NOT be set on v1 publish requests (RFC-ACDP-0003 §2.2)")

def validateIdentifiers (ctxId : CtxId) (lineageId : LineageId) (contentHash : ContentHash) :
    Except AcdpError Unit := do
  let _ ← CtxId.parse ctxId
  let _ ← LineageId.parse lineageId
  let _ ← ContentHash.parse contentHash

def validateBodyInner (env : PublishEnv) (body : Body) (checkEmbeddedHashes resolveKeys : Bool) :
    Except AcdpError Unit := do
  validateTitle body.title
  validateOptionalString body.description "description" maxDescriptionLen
  validateOptionalString body.summary "summary" maxSummaryLen
  validateOptionalString body.domain "domain" maxDomainLen
  validateAgentDid env.toEnv body.agentId resolveKeys
  body.contributors.forM validateLooseDid
  validateUniqueArray (· == ·) (debugWrapped env "AgentDid") "contributors" body.contributors maxContributors
  validateUniqueArray (· == ·) (debugWrapped env "CtxId") "derived_from" body.derivedFrom maxDerivedFrom
  body.tags.forM validateTags
  body.audience.forM (validateAudience env)
  validateVisibilityAudience body.visibility body.audience
  body.dataPeriod.forM validateDataPeriod
  body.metadata.forM (validateMetadata env.toEnv)
  validateExtensions env.toEnv body.extensions
  body.dataRefs.forM (if checkEmbeddedHashes then validateDataRef env else validateDataRefStructural env)
  body.anchors.forM (validateAnchors env)
  let attestation ← body.keyAttestation env.toEnv
  if resolveKeys then checkKeyAttestationPresence body.signature.keyId attestation.isSome
  validateSignatureLength body.signature.algorithm body.signature.value
  if resolveKeys then validateDidKeyKeyIdForm env.toEnv body.signature.keyId
  validateIdentifiers body.ctxId body.lineageId body.contentHash
  body.supersedes.forM (fun prev => (CtxId.parse prev).map (fun _ => ()))
  body.derivedFrom.forM (fun ancestor => (CtxId.parse ancestor).map (fun _ => ()))
  body.acdpVersion.forM (validateSemverPattern "acdp_version")
  validateOriginRegistry body.originRegistry

def validateBody (env : PublishEnv) (body : Body) : Except AcdpError Unit :=
  validateBodyInner env body true true

end Aggregates

end Acdp.Validation
