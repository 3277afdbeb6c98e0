import Acdp.Crypto.Binding
import Acdp.Foundation.Entries
import Acdp.Types.Decode
import Acdp.Validation.Content

namespace Acdp

structure Producer where
  signContentHash : Types.ContentHash → String × String
  agentId : Types.AgentDid
  keyId : String
  keyAttestation : Option Types.KeyAttestationRef

namespace Producer

open Acdp.Types
open Acdp.Crypto
open Acdp.Validation
open Acdp.Types.Json (strs)
open Acdp.Foundation.Entries (bind_ok guard_ok_iff seq_ok_iff)

structure RequestBuilder where
  title : Option String
  contextType : Option ContextType
  supersedes : Option CtxId
  visibility : Visibility
  contributors : List AgentDid
  dataRefs : List DataRef
  derivedFrom : List CtxId
  version : Option UInt32
  expectedLineageId : Option LineageId
  audience : Option (List AgentDid)
  description : Option String
  summary : Option String
  tags : Option (List String)
  domain : Option String
  expiresAt : Option DateTime
  dataPeriod : Option DataPeriod
  metadata : Option Json
  schemaUri : Option String
  acdpVersion : Option String
  anchors : Option (List AnchorEntry)

def acdpVersion : String := "0.4.0"

namespace RequestBuilder

def new : RequestBuilder where
  title := none
  contextType := none
  supersedes := none
  visibility := .public
  contributors := []
  dataRefs := []
  derivedFrom := []
  version := none
  expectedLineageId := none
  audience := none
  description := none
  summary := none
  tags := none
  domain := none
  expiresAt := none
  dataPeriod := none
  metadata := none
  schemaUri := none
  acdpVersion := some Producer.acdpVersion
  anchors := none

def supersede (previous : CtxId) : RequestBuilder := { new with supersedes := some previous }

/-- `previous.version + 1` wraps in a release build. -/
def supersedeBody (previous : Body) : RequestBuilder :=
  { new with
    supersedes := some previous.ctxId
    version := some (previous.version + 1)
    expectedLineageId := some previous.lineageId }

def newVersionFrom (previous : Body) : RequestBuilder :=
  { supersedeBody previous with
    title := some previous.title
    contextType := some previous.contextType
    contributors := previous.contributors
    dataRefs := previous.dataRefs
    anchors := previous.anchors
    derivedFrom := previous.derivedFrom
    visibility := previous.visibility
    audience := previous.audience
    description := previous.description
    summary := previous.summary
    tags := previous.tags
    domain := previous.domain
    expiresAt := previous.expiresAt
    dataPeriod := previous.dataPeriod
    metadata := previous.metadata
    schemaUri := previous.schemaUri
    acdpVersion := previous.acdpVersion }

end RequestBuilder

inductive Start where
  | publishRequest
  | supersede (previous : CtxId)
  | supersedeBody (previous : Body)
  | newVersionFrom (previous : Body)

def Start.builder : Start → RequestBuilder
  | .publishRequest => .new
  | .supersede previous => .supersede previous
  | .supersedeBody previous => .supersedeBody previous
  | .newVersionFrom previous => .newVersionFrom previous

inductive Setter where
  | title (t : String)
  | contextType (t : ContextType)
  | visibility (v : Visibility)
  | audience (a : List AgentDid)
  | contributors (c : List AgentDid)
  | dataRefs (d : List DataRef)
  | derivedFrom (d : List CtxId)
  | description (s : String)
  | summary (s : String)
  | tags (t : List String)
  | domain (d : String)
  | expiresAt (e : DateTime)
  | dataPeriod (dp : DataPeriod)
  | metadata (m : Json)
  | schemaUri (u : String)
  | anchors (a : List AnchorEntry)
  | clearAnchors
  | version (v : UInt32)
  | expectedLineageId (l : LineageId)
  | acdpVersion (v : String)
  | omitAcdpVersion

def Setter.apply (b : RequestBuilder) : Setter → RequestBuilder
  | .title t => { b with title := some t }
  | .contextType t => { b with contextType := some t }
  | .visibility v => { b with visibility := v }
  | .audience a => { b with audience := some a }
  | .contributors c => { b with contributors := c }
  | .dataRefs d => { b with dataRefs := d }
  | .derivedFrom d => { b with derivedFrom := d }
  | .description s => { b with description := some s }
  | .summary s => { b with summary := some s }
  | .tags t => { b with tags := some t }
  | .domain d => { b with domain := some d }
  | .expiresAt e => { b with expiresAt := some e.truncMs }
  | .dataPeriod dp => { b with dataPeriod := some ⟨dp.start.truncMs, dp.end.truncMs⟩ }
  | .metadata m => { b with metadata := some m }
  | .schemaUri u => { b with schemaUri := some u }
  | .anchors a => { b with anchors := some a }
  | .clearAnchors => { b with anchors := none }
  | .version v => { b with version := some v }
  | .expectedLineageId l => { b with expectedLineageId := some l }
  | .acdpVersion v => { b with acdpVersion := some v }
  | .omitAcdpVersion => { b with acdpVersion := none }

namespace RequestBuilder

def resolveVersion (supersedes : Option CtxId) (version : Option UInt32) : Except AcdpError UInt32 :=
  match supersedes, version with
  | none, none => .ok 1
  | none, some v =>
    if v = 1 then .ok 1 else .error (.schemaViolation s!"first-version publish requires version=1, got {v}")
  | some _, none => .error (.missingField "version")
  | some _, some v =>
    if v < 2 then .error (.schemaViolation s!"supersession publish requires version >= 2, got {v}") else .ok v

def producerContent (env : WireEnv) (producer : Producer) (b : RequestBuilder) (title : String)
    (contextType : ContextType) (version : UInt32) : List (String × Json) :=
  [("version", .num (.posInt version.toUInt64)), ("supersedes", nullable b.supersedes),
    ("agent_id", .str producer.agentId), ("contributors", strs b.contributors), ("title", .str title),
    ("type", .str contextType.wire), ("data_refs", .arr (b.dataRefs.map DataRef.toValue)),
    ("derived_from", strs b.derivedFrom), ("visibility", .str b.visibility.wire)] ++
  Json.optional "audience" strs b.audience ++ Json.optional "acdp_version" .str b.acdpVersion ++
  Json.optional "description" .str b.description ++ Json.optional "summary" .str b.summary ++
  Json.optional "tags" strs b.tags ++ Json.optional "domain" .str b.domain ++
  Json.optional "expires_at" (fun t => .str (fmtRfc3339Canonical env t)) b.expiresAt ++
  Json.optional "data_period" (DataPeriod.toValue env) b.dataPeriod ++
  Json.optional "metadata" id b.metadata ++
  Json.optional "schema_uri" .str b.schemaUri ++
  Json.optional "anchors" (fun as => .arr (as.map AnchorEntry.toValue)) b.anchors ++
  Json.optional "key_attestation" KeyAttestationRef.toValue producer.keyAttestation

def request (producer : Producer) (b : RequestBuilder) (title : String) (contextType : ContextType)
    (version : UInt32) (contentHash : ContentHash) : PublishRequest where
  version := version
  supersedes := b.supersedes
  agentId := producer.agentId
  contributors := b.contributors
  title := title
  contextType := contextType
  dataRefs := b.dataRefs
  derivedFrom := b.derivedFrom
  visibility := b.visibility
  contentHash := contentHash
  signature := ⟨(producer.signContentHash contentHash).1, producer.keyId,
    (producer.signContentHash contentHash).2⟩
  audience := b.audience
  acdpVersion := b.acdpVersion
  description := b.description
  summary := b.summary
  tags := b.tags
  domain := b.domain
  expiresAt := b.expiresAt
  dataPeriod := b.dataPeriod
  metadata := b.metadata
  schemaUri := b.schemaUri
  anchors := b.anchors
  keyAttestation := producer.keyAttestation
  lineageId := b.expectedLineageId

def build (env : PublishEnv) (producer : Producer) (b : RequestBuilder) : Except AcdpError PublishRequest :=
  match b.title with
  | none => .error (.missingField "title")
  | some title =>
    match b.contextType with
    | none => .error (.missingField "context_type")
    | some contextType => do
      let version ← resolveVersion b.supersedes b.version
      if version = 1 ∧ b.expectedLineageId.isSome then
        .error (.schemaViolation "lineage_id MUST NOT be set on v1 publish requests")
      if b.visibility = .restricted ∧ b.audience.all (·.isEmpty) then
        .error (.schemaViolation "visibility:restricted requires a non-empty audience")
      let contentHash ← computeContentHash env.toEnv
        (.obj (b.producerContent env.toWireEnv producer title contextType version))
      let req := b.request producer title contextType version contentHash
      validatePublishRequest env req
      return req

theorem build_request (env : PublishEnv) (producer : Producer) (b : RequestBuilder) (req : PublishRequest)
    (h : b.build env producer = .ok req) :
    ∃ title contextType version contentHash, b.title = some title ∧ b.contextType = some contextType ∧
      req = b.request producer title contextType version contentHash := by
  unfold build at h
  split at h
  · cases h
  next title htitle =>
  split at h
  · cases h
  next contextType htype =>
  obtain ⟨version, -, h⟩ := bind_ok _ _ _ h
  rw [guard_ok_iff] at h
  obtain ⟨-, h⟩ := h
  rw [guard_ok_iff] at h
  obtain ⟨-, h⟩ := h
  obtain ⟨contentHash, -, h⟩ := bind_ok _ _ _ h
  rw [seq_ok_iff] at h
  obtain ⟨-, h⟩ := h
  obtain rfl := Except.ok.inj h
  exact ⟨title, contextType, version, contentHash, htitle, htype, rfl⟩

theorem build_of_valid (env : PublishEnv) (producer : Producer) (b : RequestBuilder) (title : String)
    (contextType : ContextType) (version : UInt32) (contentHash : ContentHash) (htitle : b.title = some title)
    (htype : b.contextType = some contextType)
    (hversion : resolveVersion b.supersedes b.version = .ok version)
    (hlineage : ¬ (version = 1 ∧ b.expectedLineageId.isSome))
    (haudience : ¬ (b.visibility = .restricted ∧ b.audience.all (·.isEmpty)))
    (hhash : computeContentHash env.toEnv
      (.obj (b.producerContent env.toWireEnv producer title contextType version)) = .ok contentHash)
    (hvalid : validatePublishRequest env (b.request producer title contextType version contentHash) =
      .ok ()) :
    b.build env producer = .ok (b.request producer title contextType version contentHash) := by
  rw [build, htitle, htype]
  dsimp only
  rw [hversion]
  change ite _ _ _ = _
  rw [if_neg hlineage, if_neg haudience, hhash]
  change (validatePublishRequest env _ >>= _) = _
  rw [hvalid]
  rfl

end RequestBuilder

end Producer

end Acdp
