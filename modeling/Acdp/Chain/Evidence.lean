import Acdp.Chain.Options
import Acdp.Foundation.Entries
import Acdp.Types.Lifecycle
import Acdp.Types.LogProof

namespace Acdp.Chain

open Acdp.Types
open Acdp.Foundation.Entries (parseEntries)
open Std (ExtTreeMap)

def evidenceVersion : String := "acdp-evidence/1"

structure ContextEvidence where
  body : Json
  registryReceipt : Option Json
  lifecycleEvents : Option (List Json)
  eventReceipts : Option (List Json)
  logInclusion : Option Json
deriving DecidableEq

structure DidSnapshot where
  document : List (String × Json)
  observedAt : String
  observedBy : Option String
  source : Option String
deriving DecidableEq

inductive DiscoveryOutcome where
  | revoked
  | notRevokedComplete
  | unknown
deriving DecidableEq, Repr

structure DiscoveryRecord where
  vantage : String
  outcome : DiscoveryOutcome
  completedAt : String
deriving DecidableEq, Repr

structure CheckpointEvidence where
  checkpoint : Json
  cosignatures : Option (List Json)
deriving DecidableEq

structure ConsistencyProofEvidence where
  logId : String
  firstTreeSize : ℕ
  secondTreeSize : ℕ
  consistencyPath : List String
deriving DecidableEq, Repr

inductive OmittedReason where
  | withheld
  | notRetrievable
  | limit
deriving DecidableEq, Repr

structure Omitted where
  ctxId : String
  reason : OmittedReason
deriving DecidableEq, Repr

structure Evidence where
  evidenceVersion : String
  roots : Option (List String)
  exportedAt : Option String
  contexts : ExtTreeMap String ContextEvidence
  didDocuments : Option (ExtTreeMap String (List DidSnapshot))
  revocationDiscovery : Option (ExtTreeMap String (List DiscoveryRecord))
  checkpoints : Option (List CheckpointEvidence)
  consistencyProofs : Option (List ConsistencyProofEvidence)
  omitted : Option (List Omitted)
  annotations : ExtTreeMap String Json

abbrev Snapshot := DateTime × List (String × Json)

structure ParsedContext where
  rawBody : Json
  body : Body
  receipt : Option (RegistryReceipt × Json)
  events : List (LifecycleEvent × Json)
  eventReceipts : List (EventReceipt × Json)
  logInclusion : Option (LogInclusion × Json)
deriving DecidableEq

structure ParsedDiscovery where
  vantage : String
  outcome : DiscoveryOutcome
  completedAt : DateTime
deriving DecidableEq, Repr

structure ParsedCheckpoint where
  checkpoint : LogCheckpoint
  raw : Json
  cosignatures : List (LogCosignature × Json)
deriving DecidableEq

structure Parsed where
  contexts : ExtTreeMap String ParsedContext
  snapshots : ExtTreeMap String (List Snapshot)
  discovery : ExtTreeMap String (List ParsedDiscovery)
  checkpoints : List ParsedCheckpoint
  omitted : ExtTreeMap String OmittedReason

def ts (env : Env) (raw what : String) : Except ChainError DateTime :=
  match parseTs env raw with
  | some t => .ok t
  | none => .error (.invalidEvidence
      s!"{what} '{raw}' is not a canonical millisecond RFC 3339 UTC timestamp")

def looksLikeUri (s : String) : Bool :=
  (Text.splitOnceChar ':' s).any (fun p =>
    p.1.toList.head?.any (fun c => Text.isAsciiLowercase c || Text.isAsciiUppercase c) &&
      p.1.toList.all (fun c => Text.isAsciiAlphanumeric c || c == '+' || c == '-' || c == '.'))

def member {α : Type} (key what : String) (r : Except AcdpError α) : Except ChainError α :=
  match r with
  | .ok a => .ok a
  | .error e => .error (.invalidEvidence ("contexts['" ++ key ++ "']." ++ what ++ ": " ++ e.display))

def parseBody (env : Env) (key : String) (raw : Json) : Except ChainError Body :=
  match env.bodyDeserialize raw with
  | .error e => .error (.invalidEvidence s!"contexts['{key}'].body does not parse: {e}")
  | .ok body => do
    member key "body" (env.validateBodySchema body)
    return body

def parseReceipt (env : Env) (key : String) (v : Json) : Except ChainError (RegistryReceipt × Json) :=
  member key "registry_receipt" (do
    let r ← RegistryReceipt.fromValue env v
    RegistryReceipt.validateCreatedAtForm env v
    return (r, v))

def parseEvents (env : Env) (key : String) (events : Option (List Json)) :
    Except ChainError (List (LifecycleEvent × Json)) :=
  match events with
  | none => .ok []
  | some [] => .error (.invalidEvidence s!"contexts['{key}'].lifecycle_events is empty")
  | some list => list.mapM (fun v =>
      member key "lifecycle_events" ((LifecycleEvent.fromValue env v).map (·, v)))

def parseEventReceipts (env : Env) (key : String) (events receipts : Option (List Json)) :
    Except ChainError (List (EventReceipt × Json)) :=
  match receipts with
  | none => .ok []
  | some list =>
    if events = none then
      .error (.invalidEvidence s!"contexts['{key}'].event_receipts requires lifecycle_events")
    else if list = [] then .error (.invalidEvidence s!"contexts['{key}'].event_receipts is empty")
    else list.mapM (fun v => member key "event_receipts" ((EventReceipt.fromValue env v).map (·, v)))

def parseContext (env : Env) (key : String) (ce : ContextEvidence) : Except ChainError ParsedContext := do
  let body ← parseBody env key ce.body
  let receipt ← ce.registryReceipt.mapM (parseReceipt env key)
  let events ← parseEvents env key ce.lifecycleEvents
  let eventReceipts ← parseEventReceipts env key ce.lifecycleEvents ce.eventReceipts
  let logInclusion ← ce.logInclusion.mapM (fun v =>
    member key "log_inclusion" ((LogInclusion.fromValue env v).map (·, v)))
  return {
    rawBody := ce.body
    body := body
    receipt := receipt
    events := events
    eventReceipts := eventReceipts
    logInclusion := logInclusion }

def parseContextEntry (env : Env) (key : String) (ce : ContextEvidence) :
    Except ChainError ParsedContext :=
  if isCtxId key then parseContext env key ce
  else .error (.invalidEvidence s!"contexts key '{key}' is not a ctx_id")

def parseSnapshot (env : Env) (s : DidSnapshot) : Except ChainError Snapshot :=
  if s.observedBy.any (fun o => 256 < o.length) then
    .error (.invalidEvidence "did_snapshot.observed_by exceeds 256 characters")
  else if s.source.any (fun u => !looksLikeUri u) then
    .error (.invalidEvidence "did_snapshot.source is not a URI")
  else do return (← ts env s.observedAt "observed_at", s.document)

def parseSnapshots (env : Env) (did : String) (list : List DidSnapshot) :
    Except ChainError (List Snapshot) :=
  if ¬ isDid did ∨ Text.hasPrefix "did:key:" did then
    .error (.invalidEvidence (s!"did_documents key '{did}' is not a non-did:key DID (did:key resolves " ++
      "arithmetically, RFC-ACDP-0017 §4.2)"))
  else if list = [] then .error (.invalidEvidence s!"did_documents['{did}'] is empty")
  else list.mapM (parseSnapshot env)

def parseRecord (env : Env) (r : DiscoveryRecord) : Except ChainError ParsedDiscovery :=
  if ¬ isHostname r.vantage then
    .error (.invalidEvidence ("discovery vantage '" ++ r.vantage ++ "' is not a hostname"))
  else do return {
    vantage := r.vantage, outcome := r.outcome, completedAt := ← ts env r.completedAt "completed_at" }

def parseDiscovery (env : Env) (did : String) (list : List DiscoveryRecord) :
    Except ChainError (List ParsedDiscovery) :=
  if ¬ isDid did then .error (.invalidEvidence s!"revocation_discovery key '{did}' is not a DID")
  else if list = [] then .error (.invalidEvidence s!"revocation_discovery['{did}'] is empty")
  else list.mapM (parseRecord env)

def parseCosignature (env : Env) (v : Json) : Except ChainError (LogCosignature × Json) :=
  match LogCosignature.fromValue env v with
  | .error e => .error (.invalidEvidence ("cosignature: " ++ e.display))
  | .ok cosig => .ok (cosig, v)

def parseCheckpoint (env : Env) (c : CheckpointEvidence) : Except ChainError ParsedCheckpoint :=
  match LogCheckpoint.fromValue env c.checkpoint with
  | .error e => .error (.invalidEvidence ("checkpoint: " ++ e.display))
  | .ok checkpoint => do
    let cosignatures ← (c.cosignatures.getD []).mapM (parseCosignature env)
    return { checkpoint := checkpoint, raw := c.checkpoint, cosignatures := cosignatures }

def collectOmitted (list : List Omitted) : ExtTreeMap String OmittedReason :=
  list.foldl (fun m o => m.insertIfNew o.ctxId o.reason) ∅

namespace Evidence

def checkHeader (env : Env) (e : Evidence) : Except ChainError Unit := do
  if e.evidenceVersion ≠ Chain.evidenceVersion then
    .error (.invalidEvidence ("evidence_version '" ++ e.evidenceVersion ++ "' ≠ '" ++
      Chain.evidenceVersion ++ "'"))
  e.annotations.keys.forM (fun key =>
    if Text.hasPrefix "_" key then .ok ()
    else .error (.invalidEvidence
      s!"unknown member '{key}' (only '_'-prefixed annotations are allowed)"))
  (e.roots.getD []).forM (fun r =>
    if isCtxId r then .ok () else .error (.invalidEvidence s!"roots entry '{r}' is not a ctx_id"))
  if let some t := e.exportedAt then
    let _ ← ts env t "exported_at"

def checkTail (e : Evidence) : Except ChainError Unit := do
  (e.consistencyProofs.getD []).forM (fun p =>
    if p.logId = "" ∨ ¬ p.consistencyPath.all isSha256Digest then
      .error (.invalidEvidence "malformed consistency proof")
    else .ok ())
  (e.omitted.getD []).forM (fun o =>
    if isCtxId o.ctxId then .ok ()
    else .error (.invalidEvidence ("omitted ctx_id '" ++ o.ctxId ++ "' is not a ctx_id")))

def parse (env : Env) (e : Evidence) : Except ChainError Parsed := do
  e.checkHeader env
  let contexts ← parseEntries (parseContextEntry env) e.contexts
  let snapshots ← parseEntries (parseSnapshots env) (e.didDocuments.getD ∅)
  let discovery ← parseEntries (parseDiscovery env) (e.revocationDiscovery.getD ∅)
  let checkpoints ← (e.checkpoints.getD []).mapM (parseCheckpoint env)
  e.checkTail
  return {
    contexts := contexts
    snapshots := snapshots
    discovery := discovery
    checkpoints := checkpoints
    omitted := collectOmitted (e.omitted.getD []) }

end Evidence

end Acdp.Chain
