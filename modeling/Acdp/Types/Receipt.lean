import Acdp.Crypto.Verify

namespace Acdp.Types

open Acdp.Crypto

namespace RegistryReceipt

def fromValue (env : Env) (value : Json) : Except AcdpError RegistryReceipt :=
  match env.receiptDeserialize value with
  | .error e => .error (.invalidReceipt s!"registry_receipt does not parse: {e}")
  | .ok r => .ok r

def preimageHashOfValue (env : Env) (value : Json) : Except AcdpError ContentHash :=
  preimageHashOfObjectWith env value "receipt" .invalidReceipt

def validateCreatedAtForm (env : Env) (value : Json) : Except AcdpError Unit :=
  match (value.get "created_at").bind Json.asStr with
  | none => .error (.invalidReceipt "receipt created_at missing or not a string")
  | some raw =>
    if isCanonicalMsUtc env.toLogEnv raw then .ok ()
    else .error (.invalidReceipt (s!"receipt created_at '{raw}' is not canonical millisecond-precision " ++
      "RFC 3339 UTC (`YYYY-MM-DDTHH:MM:SS.mmmZ`, RFC-ACDP-0010 §8 step 6)"))

def crossCheckBody (env : Env) (r : RegistryReceipt) (body : Body) : Except AcdpError Unit :=
  if r.lineageId ≠ body.lineageId then
    .error (.invalidReceipt ("receipt lineage_id '" ++ r.lineageId ++ "' ≠ body lineage_id '" ++
      body.lineageId ++ "'"))
  else if r.originRegistry ≠ body.originRegistry then
    .error (.invalidReceipt ("receipt origin_registry '" ++ r.originRegistry ++
      "' ≠ body origin_registry '" ++ body.originRegistry ++ "'"))
  else if r.createdAt ≠ body.createdAt then
    .error (.invalidReceipt ("receipt created_at '" ++ env.display r.createdAt ++
      "' ≠ body created_at '" ++ env.display body.createdAt ++ "'"))
  else .ok ()

def crossCheck (r : RegistryReceipt) (expectedCtxId : CtxId) (recomputedBodyHash : ContentHash)
    (producerKeyFingerprint : String) : Except AcdpError Unit :=
  if r.ctxId ≠ expectedCtxId then
    .error (.invalidReceipt ("receipt ctx_id '" ++ r.ctxId ++ "' ≠ requested '" ++ expectedCtxId ++ "'"))
  else if r.contentHash ≠ recomputedBodyHash then
    .error (.invalidReceipt ("receipt content_hash '" ++ r.contentHash ++ "' ≠ recomputed body hash '" ++
      recomputedBodyHash ++ "'"))
  else if r.keyFingerprint ≠ producerKeyFingerprint then
    .error (.invalidReceipt ("receipt key_fingerprint '" ++ r.keyFingerprint ++
      "' ≠ resolved producer key '" ++ producerKeyFingerprint ++ "'"))
  else if r.createdAt.nanos % 1000000 ≠ 0 then
    .error (.invalidReceipt
      "receipt created_at is not millisecond-truncated (RFC-ACDP-0001 §5.3)")
  else if r.registryDid ≠ authorityToDidWeb r.originRegistry then
    .error (.invalidReceipt ("receipt registry_did '" ++ r.registryDid ++
      "' ≠ did:web form of origin_registry ('" ++ authorityToDidWeb r.originRegistry ++ "')"))
  else .ok ()

end RegistryReceipt

def eventReceiptType : String := "acdp-event-receipt/1"

namespace EventReceipt

def validate (r : EventReceipt) : Except AcdpError Unit :=
  if r.receiptType ≠ eventReceiptType then
    .error (.invalidReceipt ("event receipt receipt_type '" ++ r.receiptType ++ "' ≠ '" ++
      eventReceiptType ++ "'"))
  else match CtxId.parse r.ctxId with
    | .error e => .error (.invalidReceipt ("event receipt ctx_id: " ++ e.display))
    | .ok _ =>
      if ¬ isCanonicalUuid r.eventId then
        .error (.invalidReceipt ("event receipt event_id '" ++ r.eventId ++
          "' is not a canonical lowercase UUID"))
      else if ¬ isSha256Digest r.eventHash then
        .error (.invalidReceipt ("event receipt event_hash '" ++ r.eventHash ++
          "' is not sha256:<64 lowercase hex>"))
      else if (Text.splitOnceChar '#' r.signature.keyId).any
          (fun p => p.1 == r.registryDid && p.2 ≠ "") then .ok ()
      else .error (.invalidReceipt ("event receipt signature.key_id '" ++ r.signature.keyId ++
          "' is not a DID URL under registry_did '" ++ r.registryDid ++ "'"))

def fromValue (env : Env) (value : Json) : Except AcdpError EventReceipt :=
  if ¬ ((value.get "accepted_at").bind Json.asStr).any (isCanonicalMsUtc env.toLogEnv) then
    .error (.invalidReceipt ("event receipt accepted_at is missing or not canonical " ++
      "millisecond-precision RFC 3339 UTC (RFC-ACDP-0017 §10.1)"))
  else match env.eventReceiptDeserialize value with
    | .error e => .error (.invalidReceipt s!"event receipt does not parse: {e}")
    | .ok r => do
      r.validate
      return r

def eventHashOfValue (env : Env) (rawEvent : Json) : Except AcdpError String := do
  return encodeSha256Hex (env.sha256 (← env.canonicalize rawEvent))

def checkBinding (env : Env) (r : EventReceipt) (originRegistry : String) (ctxId : CtxId)
    (rawEvent : Json) (index : UInt64) (createdAt : DateTime) : Except AcdpError Unit :=
  if r.registryDid ≠ authorityToDidWeb originRegistry then
    .error (.invalidReceipt ("event receipt registry_did '" ++ r.registryDid ++ "' ≠ '" ++
      authorityToDidWeb originRegistry ++ "' (§10.3 step 2)"))
  else if r.ctxId ≠ ctxId then
    .error (.invalidReceipt "event receipt ctx_id ≠ the context's (§10.3 step 3)")
  else if (rawEvent.get "event_id").bind Json.asStr ≠ some r.eventId then
    .error (.invalidReceipt "event receipt event_id ≠ the event's (§10.3 step 4)")
  else if r.index ≠ index then
    .error (.invalidReceipt ("event receipt index " ++ toString r.index ++ " ≠ position " ++
      toString index ++ " (§10.3 step 5)"))
  else do
    let recomputed ← eventHashOfValue env rawEvent
    if recomputed ≠ r.eventHash then
      .error (.invalidReceipt "event receipt event_hash does not recompute (§10.3 step 6)")
    else if r.acceptedAt < createdAt then
      .error (.invalidReceipt
        "event receipt accepted_at precedes the context's created_at (§10.3 step 9)")
    else .ok ()

def preimageHashOfValue (env : Env) (value : Json) : Except AcdpError ContentHash :=
  preimageHashOfObjectWith env value "event receipt" .invalidReceipt

end EventReceipt

end Acdp.Types
