import Acdp.Types.Body
import Acdp.Crypto.Hash
import Acdp.Foundation.Transition
import Std.Data.ExtTreeMap
import Std.Data.ExtTreeMap.Lemmas

namespace Acdp.Registry.Store

open Acdp.Types
open Acdp.Crypto (deriveLineageId)
open Acdp.Crypto.Merkle (Digest)

/-- The `by_ctx` table: every context is stored under its own `ctx_id`. -/
structure ContextTable where
  entries : Std.ExtTreeMap String FullContext
  keyed : ∀ (id : String) (ctx : FullContext), entries[id]? = some ctx → ctx.body.ctxId = id

namespace ContextTable

def empty : ContextTable where
  entries := ∅
  keyed := by simp

def get? (t : ContextTable) (id : String) : Option FullContext := t.entries[id]?

def values (t : ContextTable) : List FullContext := t.entries.toList.map (·.2)

def insert (t : ContextTable) (ctx : FullContext) : ContextTable where
  entries := t.entries.insert ctx.body.ctxId ctx
  keyed := by
    intro id c h
    rw [Std.ExtTreeMap.getElem?_insert] at h
    split_ifs at h with hc
    · obtain rfl := Option.some.inj h
      exact Std.LawfulEqCmp.compare_eq_iff_eq.mp hc
    · exact t.keyed id c h

def setState (t : ContextTable) (id : String) (f : RegistryState → RegistryState) : ContextTable where
  entries := t.entries.modify id (fun c => { c with registryState := f c.registryState })
  keyed := by
    intro k c h
    rw [Std.ExtTreeMap.getElem?_modify] at h
    split_ifs at h with hc
    · obtain ⟨c', hc', rfl⟩ := Option.map_eq_some_iff.mp h
      exact t.keyed k c' (Std.LawfulEqCmp.compare_eq_iff_eq.mp hc ▸ hc')
    · exact t.keyed k c h

theorem get?_empty (id : String) : empty.get? id = none := by
  simp [empty, get?]

theorem get?_insert (t : ContextTable) (ctx : FullContext) (id : String) :
    (t.insert ctx).get? id = if ctx.body.ctxId = id then some ctx else t.get? id := by
  simp only [insert, get?, Std.ExtTreeMap.getElem?_insert, Std.LawfulEqCmp.compare_eq_iff_eq]

theorem get?_setState (t : ContextTable) (k : String) (f : RegistryState → RegistryState) (id : String) :
    (t.setState k f).get? id = if k = id
      then (t.get? id).map (fun c => { c with registryState := f c.registryState }) else t.get? id := by
  simp only [setState, get?, Std.ExtTreeMap.getElem?_modify, Std.LawfulEqCmp.compare_eq_iff_eq]
  split_ifs with h
  · rw [h]
  · rfl

end ContextTable

structure IdempotencyRecord where
  contentHash : ContentHash
  response : PublishResponse
  expiresAt : ℤ
deriving DecidableEq

structure Inner where
  byCtx : ContextTable
  lineages : Std.ExtTreeMap String (List String)
  idempotency : String × String → Option IdempotencyRecord

def Inner.new : Inner where
  byCtx := .empty
  lineages := ∅
  idempotency := fun _ => none

structure PendingIdempotencyCommit where
  key : String
  ttl : ℤ

structure PublishCommit where
  req : PublishRequest
  authority : String
  idempotency : Option PendingIdempotencyCommit
  tenant : Option String
  receiptMinter : Option (Body → Except AcdpError Json)
  predecessorAdmission : Option (Body → Except AcdpError Unit)

inductive PublishCommitOutcome where
  | inserted (response : PublishResponse)
  | idempotentReplay (response : PublishResponse)
deriving DecidableEq

inductive LifecycleCommitOutcome where
  | applied (ctx : FullContext)
  | idempotentReplay (ctx : FullContext)
deriving DecidableEq

def projectStatus (state : RegistryState) (body : Body) (now : DateTime) : Status :=
  if state.isRetracted then .retracted
  else match state.status with
    | .active => match body.expiresAt with
      | some exp => if exp ≤ now then .expired else .active
      | none => .active
    | other => other

def projectContext (ctx : FullContext) (now : DateTime) : FullContext :=
  { ctx with registryState :=
      { ctx.registryState with status := projectStatus ctx.registryState ctx.body now } }

def freshState : RegistryState where
  status := .active
  lifecycleEvents := none
  eventReceipts := none
  extensions := []

def storedContext (body : Body) (registryReceipt : Option Json) : FullContext where
  body := body
  registryState := freshState
  registryReceipt := registryReceipt
  lineageHeadReceipt := none
  logInclusion := none
  extensions := []
  rawBody := none

def Inner.insertContext (s : Inner) (ctx : FullContext) : Inner :=
  { s with
    byCtx := s.byCtx.insert ctx
    lineages := s.lineages.insert ctx.body.lineageId
      (s.lineages.getD ctx.body.lineageId [] ++ [ctx.body.ctxId]) }

def put (s : Inner) (body : Body) : Except AcdpError Unit × Inner :=
  match s.byCtx.get? body.ctxId with
  | some _ => (.error (.schemaViolation s!"duplicate ctx_id '{body.ctxId}' in store"), s)
  | none => (.ok (), s.insertContext (storedContext body none))

def get (s : Inner) (ctxId : CtxId) (now : DateTime) : Option FullContext :=
  (s.byCtx.get? ctxId).map (projectContext · now)

def lineage (s : Inner) (lineageId : LineageId) (now : DateTime) : List FullContext :=
  match s.lineages[lineageId]? with
  | none => []
  | some ids => ids.filterMap (fun id => (s.byCtx.get? id).map (projectContext · now))

def isHeadStatus : Status → Bool
  | .superseded => false
  | .retracted => false
  | _ => true

def current (s : Inner) (lineageId : LineageId) (now : DateTime) : Option FullContext :=
  match s.lineages[lineageId]? with
  | none => none
  | some ids => ids.reverse.findSome? (fun id =>
      ((s.byCtx.get? id).map (projectContext · now)).filter (isHeadStatus ·.registryState.status))

def supersede (state : RegistryState) : RegistryState := { state with status := .superseded }

def markSuperseded (s : Inner) (ctxId : CtxId) : Inner :=
  { s with byCtx := s.byCtx.setState ctxId supersede }

def firstVersionCtxId (s : Inner) (lineageId : LineageId) : Option CtxId :=
  s.lineages[lineageId]?.bind List.head?

def checkAlternation (event : LifecycleEvent) (currentlyRetracted : Bool) : Except AcdpError Unit :=
  match event.eventType with
  | .retracted =>
    if currentlyRetracted then
      .error (.invalidLifecycleTransition (s!"context '{event.ctxId}' is already retracted — double " ++
          "retract violates the strict alternation rule (RFC-ACDP-0013 §6 step 4)"))
    else .ok ()
  | .republished =>
    if currentlyRetracted then .ok ()
    else .error (.invalidLifecycleTransition (s!"context '{event.ctxId}' is not retracted — republish " ++
        "requires a prior retraction (RFC-ACDP-0013 §6 step 4)"))
  | .other other =>
    .error (.schemaViolation (s!"event_type '{other}' is not registered for acceptance in 0.3.0 — " ++
        "only 'retracted' and 'republished' transition state (RFC-ACDP-0013 §7.3)"))

def appendEvent (event : LifecycleEvent) (state : RegistryState) : RegistryState :=
  { state with lifecycleEvents := some (state.lifecycleEvents.getD [] ++ [event]) }

def commitLifecycleEvent (event : LifecycleEvent) (now : DateTime) (s : Inner) :
    Except AcdpError LifecycleCommitOutcome × Inner :=
  match s.byCtx.get? event.ctxId with
  | none => (.error (.notFound s!"context '{event.ctxId}' not found in this registry"), s)
  | some ctx =>
    let events := ctx.registryState.lifecycleEvents.getD []
    match events.find? (·.eventId == event.eventId) with
    | some prior =>
      if prior = event then (.ok (.idempotentReplay (projectContext ctx now)), s)
      else (.error (.schemaViolation (s!"event_id '{event.eventId}' was already appended with " ++
          "different content (RFC-ACDP-0013 §4: event_id MUST be unique within lifecycle_events)")), s)
    | none =>
      match checkAlternation event (retractionState events) with
      | .error e => (.error e, s)
      | .ok () =>
        (.ok (.applied (projectContext
            { ctx with registryState := appendEvent event ctx.registryState } now)),
          { s with byCtx := s.byCtx.setState event.ctxId (appendEvent event) })

def replayOrCollision (s : Inner) (commit : PublishCommit) (now : DateTime) :
    Option (Except AcdpError PublishCommitOutcome) :=
  match commit.idempotency with
  | none => none
  | some idem =>
    match s.idempotency (commit.req.agentId, idem.key) with
    | none => none
    | some prior =>
      if now.nanos < prior.expiresAt then
        if prior.contentHash = commit.req.contentHash then
          some (.ok (.idempotentReplay prior.response))
        else
          some (.error (.duplicatePublish (s!"Idempotency-Key '{idem.key}' was previously used by " ++
              s!"'{commit.req.agentId}' with a different content_hash")))
      else none

def runAdmission (commit : PublishCommit) (prev : Body) : Except AcdpError Unit :=
  match commit.predecessorAdmission with
  | none => .ok ()
  | some admission => admission prev

def supersessionNotFound (prev : CtxId) : AcdpError :=
  .supersededTarget .notFound s!"supersedes target '{prev}' not found in this registry"

def firstV1 (s : Inner) (commit : PublishCommit) : Except AcdpError (Option CtxId) :=
  match commit.req.supersedes with
  | none => .ok none
  | some prev =>
    match s.byCtx.get? prev with
    | none => .error (supersessionNotFound prev)
    | some prevFull =>
      if ¬ (commit.req.agentId = prevFull.body.agentId ∨
          commit.req.agentId ∈ prevFull.body.contributors) then
        .error (supersessionNotFound prev)
      else match commit.req.lineageId.filter (· ≠ prevFull.body.lineageId) with
        | some declared => .error (.supersededTarget .lineageMismatch
            s!"declared lineage_id '{declared}' ≠ predecessor's '{prevFull.body.lineageId}'")
        | none =>
          if commit.req.version ≠ prevFull.body.version + 1 then
            .error (.supersededTarget .versionMismatch (s!"version {commit.req.version} ≠ " ++
              s!"predecessor.version + 1 ({prevFull.body.version + 1})"))
          else if prevFull.registryState.status = .superseded then
            .error (.supersededTarget .alreadySuperseded
              s!"supersedes target '{prev}' has already been superseded")
          else match runAdmission commit prevFull.body with
            | .error e => .error e
            | .ok () => .ok (firstVersionCtxId s prevFull.body.lineageId)

def mintedCtxId (authority uuid : String) : CtxId := s!"acdp://{authority}/{uuid}"

def assignIdentifiers (sha256 : List UInt8 → Digest) (authority uuid : String)
    (supersedes firstVersionCtxId : Option CtxId) : Except AcdpError (CtxId × LineageId) :=
  let ctxId := mintedCtxId authority uuid
  match supersedes, firstVersionCtxId with
  | none, _ => .ok (ctxId, deriveLineageId sha256 ctxId)
  | some _, some v1 => .ok (ctxId, deriveLineageId sha256 v1)
  | some _, none =>
    .error (.schemaViolation "supersession assignment requires the v1 ctx_id to derive lineage_id")

def mintReceipt (commit : PublishCommit) (body : Body) : Except AcdpError (Option Json) :=
  match commit.receiptMinter with
  | none => .ok none
  | some mint => (mint body).map some

def publishResponse (req : PublishRequest) (body : Body) (registryReceipt : Option Json) :
    PublishResponse where
  ctxId := body.ctxId
  lineageId := body.lineageId
  version := req.version
  createdAt := body.createdAt
  status := .active
  registryReceipt := registryReceipt

/-- Everything `commit_publish` computes before its first write. -/
def preparePublish (sha256 : List UInt8 → Digest) (s : Inner) (commit : PublishCommit)
    (now : DateTime) (uuid : String) : Except AcdpError (Body × Option Json) := do
  let first ← firstV1 s commit
  let (ctxId, lineageId) ← assignIdentifiers sha256 commit.authority uuid commit.req.supersedes first
  let body := Body.fromPublishRequest commit.req ctxId lineageId commit.authority now
  if (s.byCtx.get? body.ctxId).isSome then
    .error (.schemaViolation s!"ctx_id collision: '{body.ctxId}' already exists")
  else
    let registryReceipt ← mintReceipt commit body
    return (body, registryReceipt)

def Inner.supersedePredecessor (s : Inner) (supersedes : Option CtxId) : Inner :=
  match supersedes with
  | none => s
  | some prev => markSuperseded s prev

def Inner.recordIdempotency (s : Inner) (commit : PublishCommit) (now : DateTime)
    (response : PublishResponse) : Inner :=
  match commit.idempotency with
  | none => s
  | some idem =>
    { s with
      idempotency := Function.update s.idempotency (commit.req.agentId, idem.key)
        (some ⟨commit.req.contentHash, response, now.nanos + idem.ttl⟩) }

def Inner.publish (s : Inner) (commit : PublishCommit) (now : DateTime) (body : Body)
    (registryReceipt : Option Json) : Inner :=
  ((s.insertContext (storedContext body registryReceipt)).supersedePredecessor
    commit.req.supersedes).recordIdempotency commit now
      (publishResponse commit.req body registryReceipt)

def commitPublish (sha256 : List UInt8 → Digest) (commit : PublishCommit) (now : DateTime)
    (uuid : String) (s : Inner) : Except AcdpError PublishCommitOutcome × Inner :=
  match replayOrCollision s commit now with
  | some outcome => (outcome, s)
  | none =>
    match preparePublish sha256 s commit now uuid with
    | .error e => (.error e, s)
    | .ok (body, registryReceipt) =>
      (.ok (.inserted (publishResponse commit.req body registryReceipt)),
        s.publish commit now body registryReceipt)

inductive StoreCall where
  | commitPublish (commit : PublishCommit) (now : DateTime) (uuid : String)
  | markSuperseded (ctxId : CtxId)
  | commitLifecycleEvent (event : LifecycleEvent) (now : DateTime)

inductive StoreReply where
  | published (reply : Except AcdpError PublishCommitOutcome)
  | marked
  | lifecycle (reply : Except AcdpError LifecycleCommitOutcome)

def StoreCall.apply (sha256 : List UInt8 → Digest) : StoreCall → Inner → StoreReply × Inner
  | .commitPublish commit now uuid, s =>
    (Store.commitPublish sha256 commit now uuid s).map .published id
  | .markSuperseded ctxId, s => (.marked, Store.markSuperseded s ctxId)
  | .commitLifecycleEvent event now, s => (Store.commitLifecycleEvent event now s).map .lifecycle id

def runCalls (sha256 : List UInt8 → Digest) (calls : List StoreCall) (s : Inner) : Inner :=
  Foundation.Transition.runState (StoreCall.apply sha256) calls s

end Acdp.Registry.Store
