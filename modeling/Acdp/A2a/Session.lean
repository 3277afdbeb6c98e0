import Acdp.A2a.Record
import Acdp.Crypto.RawHash

namespace Acdp.A2a

open Acdp.Types
open Acdp.Types.Json (insertMember optional)
open Acdp.Crypto (setMember)
open Acdp.Producer
open Acdp.Provenance
open Std (ExtTreeMap)

structure ArtifactPolicy where
  template : BodyTemplate
  embedding : Embedding
  failClosed : Bool
  mapUrlParts : Bool
  skip : Bool

def ArtifactPolicy.new (template : BodyTemplate) : ArtifactPolicy := ⟨template, .never, false, true, false⟩

structure ArtifactHints where
  continues : Option CtxId
  usedInputs : Option (List CtxId)
  ownInputs : List CtxId
  relayed : Bool
  a2aArtifactHash : Option ContentHash
  policy : Option ArtifactPolicy

def ArtifactHints.none : ArtifactHints := ⟨.none, .none, [], false, .none, .none⟩

/-- What the agent tells its session between the calls: the cited inputs and which of them are verified, the
hints, and the contents behind `url` parts. -/
structure SessionFacts where
  cited : List CtxId
  verified : CtxId → Bool
  checked : CtxId → Bool
  hints : String → Option ArtifactHints
  urlContents : ExtTreeMap String UrlContent

structure TaskSession extends SessionFacts where
  assembly : TaskAssembly
  published : String → Option PreviousBody
  links : String → Option Json
  withheld : String → Bool

def TaskSession.new (taskId contextId : String) : TaskSession where
  cited := []
  verified := fun _ => false
  checked := fun _ => false
  hints := fun _ => none
  urlContents := ∅
  assembly := .new taskId contextId
  published := fun _ => none
  links := fun _ => none
  withheld := fun _ => false

section Inputs

def maxDerivedFrom : ℕ := 1000

def derivedFrom (continuation : Option CtxId) (cited : List CtxId) (keep : CtxId → Bool) (own : List CtxId) :
    List CtxId :=
  (continuation.toList ++ cited.filter keep ++ own).foldl
    (fun out c => if maxDerivedFrom ≤ out.length ∨ c ∈ out then out else out ++ [c]) []

def TaskSession.derivedFrom (s : TaskSession) (id : String) : List CtxId :=
  let hints := s.hints id
  A2a.derivedFrom (hints.bind (·.continues)) s.cited
    (fun c => s.verified c && (hints.bind (·.usedInputs)).all (fun used => c ∈ used))
    ((hints.map (·.ownInputs)).getD [])

end Inputs

section Links

def failed (error : Option String) : Json := .obj ([("failed", .bool true)] ++ optional "error" .str error)

/-- Nothing is attached to what is no object, nor to an artifact whose `metadata` is none. -/
def attach (artifact link : Json) : Json :=
  match artifact with
  | .obj a =>
    match (a.lookup "metadata").getD .null with
    | .null => .obj (insertMember a "metadata" (.obj [(linkKey, link)]))
    | .obj m => .obj (insertMember a "metadata" (.obj (insertMember m linkKey link)))
    | _ => artifact
  | _ => artifact

/-- How a publish fails: the variants of the client's error that the link distinguishes, and the time-out. -/
inductive PublishFailure where
  | registry (code : String)
  | error (e : AcdpError)
  | remoteHashMismatch
  | rateLimited
  | payloadTooLarge
  | unsupportedMediaType
  | notImplemented
  | crossRegistryResolutionFailed
  | immutableField
  | other
  | timedOut

def ssrfPolicyPrefix : String := "SSRF policy:"

def registryErrorCode : PublishFailure → Option String
  | .registry code => if code ≠ "unknown" then some code else none
  | .error (.schemaViolation m) =>
    if Text.hasPrefix ssrfPolicyPrefix m ∨ Text.hasPrefix "malformed registry response" m then none
    else some "schema_violation"
  | .error (.invalidSignature _) => some "invalid_signature"
  | .remoteHashMismatch => some "hash_mismatch"
  | .error (.dataRefHashMismatch _) => some "data_ref_hash_mismatch"
  | .error (.notAuthorized _) => some "not_authorized"
  | .error (.notFound _) => some "not_found"
  | .rateLimited => some "rate_limited"
  | .payloadTooLarge => some "payload_too_large"
  | .error (.embeddedTooLarge _) => some "embedded_too_large"
  | .error (.keyResolution _) => some "key_resolution_failed"
  | .error (.keyResolutionUnreachable _) => some "key_resolution_unreachable"
  | .error (.keyNotAuthorized _) => some "key_not_authorized"
  | .error (.unsupportedAlgorithm _) => some "unsupported_algorithm"
  | .unsupportedMediaType => some "unsupported_media_type"
  | .notImplemented => some "not_implemented"
  | .error .cursorExpired => some "cursor_expired"
  | .error (.invalidCursor _) => some "invalid_cursor"
  | .error (.duplicatePublish _) => some "duplicate_publish"
  | .crossRegistryResolutionFailed => some "cross_registry_resolution_failed"
  | .error (.invalidReceipt _) => some "invalid_receipt"
  | .error (.invalidLogProof _) => some "invalid_log_proof"
  | .error (.invalidWitnessCosignature _) => some "invalid_witness_cosignature"
  | .immutableField => some "immutable_field"
  | .error (.invalidLifecycleTransition _) => some "invalid_lifecycle_transition"
  | .error (.registryInternal _) => some "internal_error"
  | .error (.supersededTarget _ _) => some "superseded_target"
  | _ => none

end Links

/-- What one completion meets outside its session: the clock, the salt source, the input resolver, the
directory for external parts, and the registry with its retries and its time-out. -/
structure Surroundings where
  completedAt : DateTime
  freshSalt : Except AcdpError Salt
  resolves : CtxId → Bool
  writes : ExternalPayload → Bool
  reply : Prepared → Except PublishFailure PublishResponse

structure Agent where
  producer : Producer
  a2aProtocolVersion : String
  defaultPolicy : ArtifactPolicy
  byName : String → Option ArtifactPolicy
  hasExternalDir : Bool
  hasInputResolver : Bool

structure Publication where
  completion : Completion
  policy : ArtifactPolicy
  prepared : Prepared
  response : PublishResponse

namespace Publication

variable (p : Publication)

def link (env : A2aEnv) : Json := p.prepared.link env p.response.ctxId

def previous : PreviousBody := ⟨p.response.ctxId, p.response.lineageId, p.response.version⟩

/-- The body that the registry keeps for the request under the `ctx_id` of its response. -/
def body : Body :=
  Body.fromPublishRequest p.prepared.request p.response.ctxId p.response.lineageId
    (CtxId.authority p.response.ctxId) p.response.createdAt

end Publication

inductive Settled where
  | skipped
  | published (p : Publication)
  | failed (policy : ArtifactPolicy) (code : Option String)

def Settled.link (env : A2aEnv) : Settled → Option Json
  | .skipped => none
  | .published p => some (p.link env)
  | .failed _ code => some (A2a.failed code)

inductive Outcome where
  | linked (link : Json)
  | skipped
  | withheld (failure : Json)

inductive ChunkOutput where
  | emit (chunk : Json)
  | withhold (artifactId : String) (failure : Json)

structure TaskOutput where
  task : Json
  withheld : List (String × Json)

namespace Agent

variable (env : A2aEnv) (agent : Agent) (w : Surroundings) (s : TaskSession)

def policyFor (id : String) : ArtifactPolicy :=
  match (s.hints id).bind (·.policy) with
  | some p => p
  | none => (((s.assembly.artifact id).bind (·.name)).bind agent.byName).getD agent.defaultPolicy

/-- Whether completing the artifact publishes nothing. -/
def skips (id : String) : Bool :=
  match s.assembly.artifact id with
  | none => true
  | some art => ((s.hints id).any (·.relayed) || art.isClientWritten) || (agent.policyFor s id).skip

def checkInputs : TaskSession :=
  if agent.hasInputResolver then
    let pending := s.cited.filter (fun c => !s.checked c)
    { s with
      checked := fun c => s.checked c || decide (c ∈ pending)
      verified := fun c => s.verified c || decide (c ∈ pending.filter w.resolves) }
  else s

def completion (id : String) (art : AssembledArtifact) (hints : ArtifactHints) (policy : ArtifactPolicy) :
    Completion where
  a2aProtocolVersion := agent.a2aProtocolVersion
  taskId := s.assembly.taskId
  contextId := s.assembly.contextId
  artifact := art
  completedAt := w.completedAt
  derivedFrom := s.derivedFrom id
  previous := s.published id
  mapUrlParts := policy.mapUrlParts
  urlContents := s.urlContents
  a2aArtifactHash := hints.a2aArtifactHash

def publish (c : Completion) (policy : ArtifactPolicy) : Except (Option String) Publication :=
  match prepare env agent.producer c policy.template policy.embedding w.freshSalt with
  | .error _ => .error none
  | .ok prepared =>
    if prepared.external.any (fun ext => !(agent.hasExternalDir && w.writes ext)) then .error none
    else match w.reply prepared with
      | .error e => .error (registryErrorCode e)
      | .ok response => .ok ⟨c, policy, prepared, response⟩

def settle (id : String) : Settled :=
  match s.assembly.artifact id with
  | none => .skipped
  | some art =>
    if agent.skips s id then .skipped
    else
      let policy := agent.policyFor s id
      let hints := (s.hints id).getD .none
      match agent.publish env w (agent.completion w (agent.checkInputs w s) id art hints policy) policy with
      | .ok p => .published p
      | .error code => .failed policy code

def complete (id : String) : TaskSession × Outcome :=
  match agent.settle env w s id with
  | .skipped => (s, .skipped)
  | .published p =>
    ({ agent.checkInputs w s with
        published := Function.update s.published id (some p.previous)
        links := Function.update s.links id (some (p.link env))
        withheld := Function.update s.withheld id false }, .linked (p.link env))
  | .failed policy code =>
    let failure := A2a.failed code
    ({ agent.checkInputs w s with
        links := Function.update s.links id (some failure)
        withheld := Function.update s.withheld id policy.failClosed },
      if policy.failClosed then .withheld failure else .linked failure)

end Agent

section Emission

def artifactIdText (a : Json) : Option String := (a.get "artifactId").bind Json.asStr

def chunkArtifactId (chunk : Json) : String := ((chunk.get "artifact").bind artifactIdText).getD ""

variable (s : TaskSession)

def TaskSession.carry (a : Json) : Json :=
  match artifactIdText a with
  | none => a
  | some id =>
    if s.assembly.isComplete id then
      match s.links id, s.assembly.artifact id with
      | some link, some art => attach (setMember a "parts" (.arr art.parts)) link
      | _, _ => a
    else a

def TaskSession.isWithheld (a : Json) : Bool := s.withheld ((artifactIdText a).getD "")

def TaskSession.emit (task : Json) : TaskOutput :=
  match (task.get "artifacts").bind Json.asArray with
  | none => ⟨task, []⟩
  | some arts => {
      task := setMember task "artifacts" (.arr ((arts.filter (fun a => !s.isWithheld a)).map s.carry))
      withheld := (arts.filter s.isWithheld).map (fun a =>
        let id := (artifactIdText a).getD ""
        (id, (s.links id).getD (failed none))) }

end Emission

namespace Agent

variable (env : A2aEnv) (agent : Agent)

def onChunk (w : Surroundings) (s : TaskSession) (chunk : Json) :
    TaskSession × Except PartError ChunkOutput :=
  match s.assembly.ingestChunk env chunk with
  | (assembly, .error e) => ({ s with assembly := assembly }, .error e)
  | (assembly, .ok .pending) => ({ s with assembly := assembly }, .ok (.emit chunk))
  | (assembly, .ok .completed) =>
    match agent.complete env w { s with assembly := assembly } (chunkArtifactId chunk) with
    | (s', .skipped) => (s', .ok (.emit chunk))
    | (s', .linked link) =>
      (s', .ok (.emit (setMember chunk "artifact" (attach ((chunk.get "artifact").getD .null) link))))
    | (s', .withheld failure) => (s', .ok (.withhold (chunkArtifactId chunk) failure))

def completeAll (w : String → Surroundings) (s : TaskSession) (done : List String) : TaskSession :=
  done.foldl (fun s id => (agent.complete env (w id) s id).1) s

def onTask (w : String → Surroundings) (s : TaskSession) (task : Json) :
    TaskSession × Except PartError TaskOutput :=
  match s.assembly.ingestTask env task with
  | (assembly, .error e) => ({ s with assembly := assembly }, .error e)
  | (assembly, .ok done) =>
    let s' := agent.completeAll env w { s with assembly := assembly } done
    (s', .ok (s'.emit task))

end Agent

inductive SessionCall where
  | tell (facts : SessionFacts)
  | onChunk (w : Surroundings) (chunk : Json)
  | onTask (w : String → Surroundings) (task : Json)

def Agent.step (env : A2aEnv) (agent : Agent) (s : TaskSession) : SessionCall → TaskSession
  | .tell facts => { s with toSessionFacts := facts }
  | .onChunk w chunk => (agent.onChunk env w s chunk).1
  | .onTask w task => (agent.onTask env w s task).1

end Acdp.A2a
