import Acdp.Crypto.Verify

namespace Acdp.Types

open Acdp.Crypto

def maxReasonChars : ℕ := 1024

namespace LifecycleEvent

def validate (e : LifecycleEvent) : Except AcdpError Unit := do
  if ¬ isCanonicalUuid e.eventId then
    .error (.schemaViolation ("lifecycle event_id '" ++ e.eventId ++
      "' is not a canonical lowercase RFC 9562 UUID (RFC-ACDP-0013 §4)"))
  let _ ← CtxId.parse e.ctxId
  let _ ← AgentDid.parse e.actor
  if e.reason.any (fun reason => maxReasonChars < reason.length) then
    .error (.schemaViolation ("lifecycle event reason exceeds " ++ toString maxReasonChars ++
      " characters (RFC-ACDP-0013 §4)"))

def fromValue (env : Env) (value : Json) : Except AcdpError LifecycleEvent :=
  match env.eventDeserialize value with
  | .error e => .error (.schemaViolation s!"lifecycle event does not parse: {e}")
  | .ok event => do
    event.validate
    return event

def preimageHashOfValue (env : Env) (value : Json) : Except AcdpError ContentHash :=
  match value.asObject with
  | none => .error (.schemaViolation "lifecycle event must be a JSON object")
  | some members => preimageHashOfMap env members

def actorBoundSignature (e : LifecycleEvent) : Except AcdpError Signature :=
  match e.signature with
  | none => .error (.schemaViolation ("lifecycle event has no signature (producer-initiated events " ++
      "MUST be signed, RFC-ACDP-0013 §5)"))
  | some signature =>
    if (Text.splitOnceChar '#' signature.keyId).any (fun p => p.1 == e.actor && p.2 ≠ "") then
      .ok signature
    else .error (.invalidSignature ("lifecycle event signature.key_id '" ++ signature.keyId ++
      "' is not a DID URL under actor '" ++ e.actor ++ "' (RFC-ACDP-0013 §5 actor binding)"))

def isSigned (e : LifecycleEvent) : Bool := e.signature.isSome

end LifecycleEvent

def lifecycleEventPrechecks (env : Env) (rawEvent : Json) (expectedCtxId : CtxId)
    (producerDid : AgentDid) (registryDid : Option String) :
    Except AcdpError (LifecycleEvent × ContentHash) := do
  let hash ← LifecycleEvent.preimageHashOfValue env rawEvent
  let event ← LifecycleEvent.fromValue env rawEvent
  if event.ctxId ≠ expectedCtxId then
    .error (.schemaViolation ("lifecycle event ctx_id '" ++ event.ctxId ++
      "' ≠ the context's ctx_id '" ++ expectedCtxId ++
      "' (RFC-ACDP-0013 §4: an event binds to exactly one context)"))
  if event.actor ≠ producerDid ∧ registryDid ≠ some event.actor then
    .error (.notAuthorized ("lifecycle event actor '" ++ event.actor ++
      "' is neither the producer '" ++ producerDid ++ "' nor the registry DID — only the producer and " ++
      "the serving registry can record lifecycle events (RFC-ACDP-0013 §4, §12)"))
  let _ ← event.actorBoundSignature
  return (event, hash)

end Acdp.Types
