import Acdp.Types.Lifecycle

namespace Acdp.Types

open Acdp.Crypto

def parseCanonicalMs (env : Env) (raw : String) : Option DateTime :=
  match env.parseFromRfc3339 raw with
  | .error _ => none
  | .ok t => if env.fmtRfc3339Ms t = raw then some t else none

namespace KeyRevocation

def requiredStr (meta_ : List (String × Json)) (key : String) : Except AcdpError String :=
  match (meta_.lookup key).bind Json.asStr with
  | some s => .ok s
  | none => .error (.schemaViolation (s!"key-revocation metadata.{key} is REQUIRED and must be a string " ++
      "(RFC-ACDP-0014 §4)"))

def optionalStr (meta_ : List (String × Json)) (key : String) : Except AcdpError (Option String) :=
  match meta_.lookup key with
  | none => .ok none
  | some (.str s) => .ok (some s)
  | some _ => .error (.schemaViolation (s!"key-revocation metadata.{key} must be a string when present " ++
      "(RFC-ACDP-0014 §4)"))

def checkNotSelfSigned (r : KeyRevocation) (signingKeyFingerprint : String) : Except AcdpError Unit :=
  if signingKeyFingerprint = r.revokedKeyFingerprint then
    .error (.keyNotAuthorized ("revocation of key " ++ r.revokedKeyFingerprint ++ " is signed by that " ++
      "same key — a key is not authorized to attest its own compromise; treat as unverified " ++
      "(RFC-ACDP-0014 §5 step 2)"))
  else .ok ()

def revokes (r : KeyRevocation) (keyFingerprint : String) : Bool :=
  r.revokedKeyFingerprint == keyFingerprint

def didKeyFingerprint (env : Env) (signingKeyId : String) : Option String := do
  guard (Text.hasPrefix "did:key:" signingKeyId)
  let material ← (resolveDidKeyUrl env signingKeyId).toOption
  (fingerprintDidKeyMaterial env material).toOption

def fromParts (env : Env) (contextType : ContextType) (visibility : Visibility) (metadata : Option Json)
    (agentId : AgentDid) (signingKeyId : String) : Except AcdpError KeyRevocation := do
  if ¬ contextType.isKeyRevocation then
    .error (.schemaViolation ("not a key-revocation context: type is '" ++ contextType.wire ++
      "' (RFC-ACDP-0014 §4 requires 'key-revocation', or 'acdp:key-revocation' in the pre-0.3.0 " ++
      "interim form)"))
  if visibility ≠ .public then
    .error (.schemaViolation ("a key-revocation context MUST be visibility 'public' — it is a safety " ++
      "broadcast; an audience-restricted revocation protects nobody outside the audience " ++
      "(RFC-ACDP-0014 §4)"))
  match metadata.bind Json.asObject with
  | none => .error (.schemaViolation ("key-revocation body has no metadata object; " ++
      "metadata.revoked_key_fingerprint and metadata.compromised_since are REQUIRED (RFC-ACDP-0014 §4)"))
  | some meta_ =>
    let fingerprint ← requiredStr meta_ "revoked_key_fingerprint"
    if ¬ isSha256Digest fingerprint then
      .error (.schemaViolation (s!"metadata.revoked_key_fingerprint '{fingerprint}' is not in the " ++
        "RFC-ACDP-0010 §6 form 'sha256:' + 64 lowercase hex (RFC-ACDP-0014 §4)"))
    let sinceRaw ← requiredStr meta_ "compromised_since"
    match parseCanonicalMs env sinceRaw with
    | none => .error (.schemaViolation (s!"metadata.compromised_since '{sinceRaw}' is not canonical " ++
        "millisecond-precision RFC 3339 UTC (RFC-ACDP-0001 §5.3, RFC-ACDP-0014 §4)"))
    | some compromisedSince =>
      let reason ← optionalStr meta_ "reason"
      if reason.any (fun r => maxReasonChars < r.length) then
        .error (.schemaViolation ("metadata.reason exceeds " ++ toString maxReasonChars ++
          " characters (RFC-ACDP-0014 §4)"))
      let revokedKeyId ← optionalStr meta_ "revoked_key_id"
      let controller ← (← optionalStr meta_ "revoked_key_controller").mapM AgentDid.parse
      let revocation : KeyRevocation := {
        revokedKeyFingerprint := fingerprint
        compromisedSince := compromisedSince
        reason := reason
        revokedKeyId := revokedKeyId
        revokedKeyController := controller.getD agentId
        publisher := agentId
        trustClass := if controller.getD agentId = agentId then .producerSigned else .registryAttested
        ctxId := none }
      if let some fp := didKeyFingerprint env signingKeyId then
        revocation.checkNotSelfSigned fp
      return revocation

def fromBody (env : Env) (body : Body) : Except AcdpError KeyRevocation := do
  let revocation ← fromParts env body.contextType body.visibility body.metadata body.agentId
    body.signature.keyId
  return { revocation with ctxId := some body.ctxId }

def fromPublishRequest (env : Env) (req : PublishRequest) : Except AcdpError KeyRevocation :=
  fromParts env req.contextType req.visibility req.metadata req.agentId req.signature.keyId

def checkNotSelfSignedLenient (req : PublishRequest) (signingKeyFingerprint : String) :
    Except AcdpError Unit :=
  match ((req.metadata.bind Json.asObject).bind (·.lookup "revoked_key_fingerprint")).bind Json.asStr with
  | none => .ok ()
  | some fingerprint =>
    if fingerprint = signingKeyFingerprint then
      .error (.keyNotAuthorized
      (s!"revocation of key {fingerprint} is signed by that same key — a key is not " ++
        "authorized to attest its own compromise; treat as unverified (RFC-ACDP-0014 §5 step 2)"))
    else .ok ()

def checkNotSelfSignedDidKeyLenient (env : Env) (req : PublishRequest) : Except AcdpError Unit :=
  match didKeyFingerprint env req.signature.keyId with
  | none => .ok ()
  | some fp => checkNotSelfSignedLenient req fp

end KeyRevocation

end Acdp.Types
