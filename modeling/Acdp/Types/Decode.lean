import Acdp.Types.Closed

namespace Acdp.Types

open Acdp.Crypto (removeKeys)

namespace Json

def closedMembersFrom (least : ℕ) (names : List String) : Json → Option (List (String × Json))
  | .obj members => if members.all (fun m => m.1 ∈ names) then some members else none
  | .arr items => if least ≤ items.length ∧ items.length ≤ names.length then some (names.zip items) else none
  | _ => none

def readItems {α : Type} (read : Json → Option α) : Json → Option (List α)
  | .arr items => items.mapM read
  | _ => none

/-- The variant that serde takes from a unit variant's value: its name, or an object of the name and
`null`. -/
def unitVariant : Json → Option String
  | .str name => some name
  | .obj [(name, .null)] => some name
  | _ => none

end Json

section Fields

variable {α : Type} (members : List (String × Json)) (key : String) (read : Json → Option α)

def requiredField : Option α := (members.lookup key).bind read

def optionField : Option (Option α) :=
  match members.lookup key with
  | none => some none
  | some .null => some none
  | some v => (read v).map some

def presentField : Option (Option α) :=
  match members.lookup key with
  | none => some none
  | some v => (read v).map some

end Fields

def isNamespacedContextType (s : String) : Bool :=
  match Text.splitOnceChar ':' s with
  | none => false
  | some (ns, name) =>
    ns.toList.head?.any Text.isAsciiLowercase &&
      ns.toList.all (fun c => Text.isAsciiLowercase c || Text.isAsciiDigit c || c == '_') &&
      name.toList.head?.any Text.isAsciiLowercase &&
      name.toList.all (fun c => Text.isAsciiLowercase c || Text.isAsciiDigit c || c == '_' || c == '-')

def ContextType.ofWire (s : String) : Option ContextType :=
  if s = "data_snapshot" then some .dataSnapshot
  else if s = "analysis" then some .analysis
  else if s = "prediction" then some .prediction
  else if s = "alert" then some .alert
  else if s = "key-revocation" then some .keyRevocation
  else if isNamespacedContextType s then some (.custom s)
  else none

def ContextType.read (v : Json) : Option ContextType := v.asStr.bind ContextType.ofWire

def Visibility.ofWire (s : String) : Option Visibility :=
  if s = "public" then some .public
  else if s = "restricted" then some .restricted
  else if s = "private" then some .private
  else none

def Visibility.read (v : Json) : Option Visibility := v.unitVariant.bind Visibility.ofWire

def DataRefType.ofWire (s : String) : Option DataRefType :=
  if s = "primary_result" then some .primaryResult
  else if s = "raw_data" then some .rawData
  else if s = "supporting_info" then some .supportingInfo
  else if s = "derived_data" then some .derivedData
  else none

def DataRefType.read (v : Json) : Option DataRefType := v.unitVariant.bind DataRefType.ofWire

def EmbeddedEncoding.ofWire (s : String) : Option EmbeddedEncoding :=
  if s = "json" then some .json
  else if s = "utf8" then some .utf8
  else if s = "base64" then some .base64
  else none

def EmbeddedEncoding.read (v : Json) : Option EmbeddedEncoding := v.unitVariant.bind EmbeddedEncoding.ofWire

def Location.read : Json → Option Location
  | .str u => some (.uri u)
  | .obj members => some (.structured members)
  | _ => none

def EmbeddedContent.read (v : Json) : Option EmbeddedContent := do
  let members ← v.closedMembersFrom 2 ["encoding", "content", "content_hash"]
  return {
    encoding := ← requiredField members "encoding" EmbeddedEncoding.read
    content := ← members.lookup "content"
    contentHash := ← presentField members "content_hash" Json.asStr }

def DataRef.names : List String :=
  ["type", "description", "size_bytes", "format", "schema_version", "content_hash", "location", "embedded"]

def DataRef.read (v : Json) : Option DataRef := do
  let members ← v.asObject
  return {
    refType := ← requiredField members "type" DataRefType.read
    description := ← presentField members "description" Json.asStr
    sizeBytes := ← presentField members "size_bytes" (fun v => (v.asUInt 64).map UInt64.ofNat)
    format := ← presentField members "format" Json.asStr
    schemaVersion := ← presentField members "schema_version" Json.asStr
    contentHash := ← presentField members "content_hash" Json.asStr
    location := ← presentField members "location" Location.read
    embedded := ← presentField members "embedded" EmbeddedContent.read
    extensions := removeKeys DataRef.names members }

def AnchorEntry.names : List String := ["scheme", "content_hash", "uri"]

def AnchorEntry.read (v : Json) : Option AnchorEntry := do
  let members ← v.asObject
  return {
    scheme := ← requiredField members "scheme" Json.asStr
    contentHash := ← requiredField members "content_hash" Json.asStr
    uri := ← optionField members "uri" Json.asStr
    extensions := removeKeys AnchorEntry.names members }

def KeyAttestationRef.read (v : Json) : Option KeyAttestationRef := do
  let members ← v.closedMembers ["ctx_id", "content_hash"]
  return {
    ctxId := ← requiredField members "ctx_id" Json.asStr
    contentHash := ← requiredField members "content_hash" Json.asStr }

section Instants

-- The parser behind chrono's `DateTime<Utc>::deserialize`, which reads more than RFC 3339.
variable (parseDateTime : String → Option DateTime)

def readInstant (v : Json) : Option DateTime := v.asStr.bind parseDateTime

def DataPeriod.read (v : Json) : Option DataPeriod := do
  let members ← v.closedMembers ["start", "end"]
  return {
    start := ← requiredField members "start" (readInstant parseDateTime)
    «end» := ← requiredField members "end" (readInstant parseDateTime) }

def Body.names : List String :=
  ["ctx_id", "lineage_id", "origin_registry", "created_at", "content_hash", "signature",
    "version", "supersedes", "agent_id", "contributors", "title", "type", "data_refs", "derived_from",
    "visibility", "audience",
    "acdp_version", "description", "summary", "tags", "domain", "expires_at", "data_period", "metadata",
    "schema_uri", "anchors"]

def Body.read (v : Json) : Option Body := do
  let members ← v.asObject
  return {
    ctxId := ← requiredField members "ctx_id" Json.asStr
    lineageId := ← requiredField members "lineage_id" Json.asStr
    originRegistry := ← requiredField members "origin_registry" Json.asStr
    createdAt := ← requiredField members "created_at" (readInstant parseDateTime)
    contentHash := ← requiredField members "content_hash" Json.asStr
    signature := ← requiredField members "signature" Signature.read
    version := UInt32.ofNat (← requiredField members "version" (Json.asUInt 32))
    supersedes := ← optionField members "supersedes" Json.asStr
    agentId := ← requiredField members "agent_id" Json.asStr
    contributors := ← requiredField members "contributors" (Json.readItems Json.asStr)
    title := ← requiredField members "title" Json.asStr
    contextType := ← requiredField members "type" ContextType.read
    dataRefs := ← requiredField members "data_refs" (Json.readItems DataRef.read)
    derivedFrom := ← requiredField members "derived_from" (Json.readItems Json.asStr)
    visibility := ← requiredField members "visibility" Visibility.read
    audience := ← optionField members "audience" (Json.readItems Json.asStr)
    acdpVersion := ← presentField members "acdp_version" Json.asStr
    description := ← presentField members "description" Json.asStr
    summary := ← presentField members "summary" Json.asStr
    tags := ← presentField members "tags" (Json.readItems Json.asStr)
    domain := ← presentField members "domain" Json.asStr
    expiresAt := ← optionField members "expires_at" (readInstant parseDateTime)
    dataPeriod := ← optionField members "data_period" (DataPeriod.read parseDateTime)
    metadata := ← optionField members "metadata" some
    schemaUri := ← presentField members "schema_uri" Json.asStr
    anchors := ← presentField members "anchors" (Json.readItems AnchorEntry.read)
    extensions := removeKeys Body.names members }

def PublishRequest.names : List String :=
  ["version", "supersedes", "agent_id", "contributors", "title", "type", "data_refs",
    "derived_from", "visibility", "content_hash", "signature", "audience", "acdp_version", "description",
    "summary", "lineage_id", "tags",
    "domain", "expires_at", "data_period", "metadata", "schema_uri", "anchors", keyAttestationField]

def PublishRequest.read (v : Json) : Option PublishRequest := do
  let members ← v.closedMembersFrom 21 PublishRequest.names
  return {
    version := UInt32.ofNat (← requiredField members "version" (Json.asUInt 32))
    supersedes := ← optionField members "supersedes" Json.asStr
    agentId := ← requiredField members "agent_id" Json.asStr
    contributors := ← requiredField members "contributors" (Json.readItems Json.asStr)
    title := ← requiredField members "title" Json.asStr
    contextType := ← requiredField members "type" ContextType.read
    dataRefs := ← requiredField members "data_refs" (Json.readItems DataRef.read)
    derivedFrom := ← requiredField members "derived_from" (Json.readItems Json.asStr)
    visibility := ← requiredField members "visibility" Visibility.read
    contentHash := ← requiredField members "content_hash" Json.asStr
    signature := ← requiredField members "signature" Signature.read
    audience := ← optionField members "audience" (Json.readItems Json.asStr)
    acdpVersion := ← presentField members "acdp_version" Json.asStr
    description := ← presentField members "description" Json.asStr
    summary := ← presentField members "summary" Json.asStr
    lineageId := ← optionField members "lineage_id" Json.asStr
    tags := ← presentField members "tags" (Json.readItems Json.asStr)
    domain := ← presentField members "domain" Json.asStr
    expiresAt := ← optionField members "expires_at" (readInstant parseDateTime)
    dataPeriod := ← optionField members "data_period" (DataPeriod.read parseDateTime)
    metadata := ← optionField members "metadata" some
    schemaUri := ← presentField members "schema_uri" Json.asStr
    anchors := ← presentField members "anchors" (Json.readItems AnchorEntry.read)
    keyAttestation := ← presentField members keyAttestationField KeyAttestationRef.read }

structure Body.ReadFrom (members : List (String × Json)) (b : Body) : Prop where
  ctxId : requiredField members "ctx_id" Json.asStr = some b.ctxId
  lineageId : requiredField members "lineage_id" Json.asStr = some b.lineageId
  originRegistry : requiredField members "origin_registry" Json.asStr = some b.originRegistry
  createdAt : requiredField members "created_at" (readInstant parseDateTime) = some b.createdAt
  contentHash : requiredField members "content_hash" Json.asStr = some b.contentHash
  signature : requiredField members "signature" Signature.read = some b.signature
  version : (requiredField members "version" (Json.asUInt 32)).map UInt32.ofNat = some b.version
  supersedes : optionField members "supersedes" Json.asStr = some b.supersedes
  agentId : requiredField members "agent_id" Json.asStr = some b.agentId
  contributors : requiredField members "contributors" (Json.readItems Json.asStr) = some b.contributors
  title : requiredField members "title" Json.asStr = some b.title
  contextType : requiredField members "type" ContextType.read = some b.contextType
  dataRefs : requiredField members "data_refs" (Json.readItems DataRef.read) = some b.dataRefs
  derivedFrom : requiredField members "derived_from" (Json.readItems Json.asStr) = some b.derivedFrom
  visibility : requiredField members "visibility" Visibility.read = some b.visibility
  audience : optionField members "audience" (Json.readItems Json.asStr) = some b.audience
  acdpVersion : presentField members "acdp_version" Json.asStr = some b.acdpVersion
  description : presentField members "description" Json.asStr = some b.description
  summary : presentField members "summary" Json.asStr = some b.summary
  tags : presentField members "tags" (Json.readItems Json.asStr) = some b.tags
  domain : presentField members "domain" Json.asStr = some b.domain
  expiresAt : optionField members "expires_at" (readInstant parseDateTime) = some b.expiresAt
  dataPeriod : optionField members "data_period" (DataPeriod.read parseDateTime) = some b.dataPeriod
  metadata : optionField members "metadata" some = some b.metadata
  schemaUri : presentField members "schema_uri" Json.asStr = some b.schemaUri
  anchors : presentField members "anchors" (Json.readItems AnchorEntry.read) = some b.anchors
  extensions : b.extensions = removeKeys Body.names members

theorem Body.readFrom_of_read (v : Json) (b : Body) (h : Body.read parseDateTime v = some b) :
    ∃ members, v.asObject = some members ∧
      Body.ReadFrom parseDateTime members b := by
  obtain ⟨members, hmembers, h⟩ := Option.bind_eq_some_iff.mp h
  obtain ⟨ctxId, hCtxId, h⟩ := Option.bind_eq_some_iff.mp h
  obtain ⟨lineageId, hLineageId, h⟩ := Option.bind_eq_some_iff.mp h
  obtain ⟨originRegistry, hOriginRegistry, h⟩ := Option.bind_eq_some_iff.mp h
  obtain ⟨createdAt, hCreatedAt, h⟩ := Option.bind_eq_some_iff.mp h
  obtain ⟨contentHash, hContentHash, h⟩ := Option.bind_eq_some_iff.mp h
  obtain ⟨signature, hSignature, h⟩ := Option.bind_eq_some_iff.mp h
  obtain ⟨version, hVersion, h⟩ := Option.bind_eq_some_iff.mp h
  obtain ⟨supersedes, hSupersedes, h⟩ := Option.bind_eq_some_iff.mp h
  obtain ⟨agentId, hAgentId, h⟩ := Option.bind_eq_some_iff.mp h
  obtain ⟨contributors, hContributors, h⟩ := Option.bind_eq_some_iff.mp h
  obtain ⟨title, hTitle, h⟩ := Option.bind_eq_some_iff.mp h
  obtain ⟨contextType, hContextType, h⟩ := Option.bind_eq_some_iff.mp h
  obtain ⟨dataRefs, hDataRefs, h⟩ := Option.bind_eq_some_iff.mp h
  obtain ⟨derivedFrom, hDerivedFrom, h⟩ := Option.bind_eq_some_iff.mp h
  obtain ⟨visibility, hVisibility, h⟩ := Option.bind_eq_some_iff.mp h
  obtain ⟨audience, hAudience, h⟩ := Option.bind_eq_some_iff.mp h
  obtain ⟨acdpVersion, hAcdpVersion, h⟩ := Option.bind_eq_some_iff.mp h
  obtain ⟨description, hDescription, h⟩ := Option.bind_eq_some_iff.mp h
  obtain ⟨summary, hSummary, h⟩ := Option.bind_eq_some_iff.mp h
  obtain ⟨tags, hTags, h⟩ := Option.bind_eq_some_iff.mp h
  obtain ⟨domain, hDomain, h⟩ := Option.bind_eq_some_iff.mp h
  obtain ⟨expiresAt, hExpiresAt, h⟩ := Option.bind_eq_some_iff.mp h
  obtain ⟨dataPeriod, hDataPeriod, h⟩ := Option.bind_eq_some_iff.mp h
  obtain ⟨metadata, hMetadata, h⟩ := Option.bind_eq_some_iff.mp h
  obtain ⟨schemaUri, hSchemaUri, h⟩ := Option.bind_eq_some_iff.mp h
  obtain ⟨anchors, hAnchors, h⟩ := Option.bind_eq_some_iff.mp h
  obtain rfl := Option.some.inj h
  have hversion : (requiredField members "version" (Json.asUInt 32)).map UInt32.ofNat =
      some (UInt32.ofNat version) := by
    rw [hVersion, Option.map_some]
  exact ⟨members, hmembers, hCtxId, hLineageId, hOriginRegistry, hCreatedAt, hContentHash, hSignature,
    hversion, hSupersedes, hAgentId, hContributors, hTitle, hContextType, hDataRefs, hDerivedFrom,
    hVisibility, hAudience, hAcdpVersion, hDescription, hSummary, hTags, hDomain, hExpiresAt, hDataPeriod,
    hMetadata, hSchemaUri, hAnchors, rfl⟩

structure PublishRequest.ReadFrom (members : List (String × Json)) (r : PublishRequest) : Prop where
  version : (requiredField members "version" (Json.asUInt 32)).map UInt32.ofNat = some r.version
  supersedes : optionField members "supersedes" Json.asStr = some r.supersedes
  agentId : requiredField members "agent_id" Json.asStr = some r.agentId
  contributors : requiredField members "contributors" (Json.readItems Json.asStr) = some r.contributors
  title : requiredField members "title" Json.asStr = some r.title
  contextType : requiredField members "type" ContextType.read = some r.contextType
  dataRefs : requiredField members "data_refs" (Json.readItems DataRef.read) = some r.dataRefs
  derivedFrom : requiredField members "derived_from" (Json.readItems Json.asStr) = some r.derivedFrom
  visibility : requiredField members "visibility" Visibility.read = some r.visibility
  contentHash : requiredField members "content_hash" Json.asStr = some r.contentHash
  signature : requiredField members "signature" Signature.read = some r.signature
  audience : optionField members "audience" (Json.readItems Json.asStr) = some r.audience
  acdpVersion : presentField members "acdp_version" Json.asStr = some r.acdpVersion
  description : presentField members "description" Json.asStr = some r.description
  summary : presentField members "summary" Json.asStr = some r.summary
  lineageId : optionField members "lineage_id" Json.asStr = some r.lineageId
  tags : presentField members "tags" (Json.readItems Json.asStr) = some r.tags
  domain : presentField members "domain" Json.asStr = some r.domain
  expiresAt : optionField members "expires_at" (readInstant parseDateTime) = some r.expiresAt
  dataPeriod : optionField members "data_period" (DataPeriod.read parseDateTime) = some r.dataPeriod
  metadata : optionField members "metadata" some = some r.metadata
  schemaUri : presentField members "schema_uri" Json.asStr = some r.schemaUri
  anchors : presentField members "anchors" (Json.readItems AnchorEntry.read) = some r.anchors
  keyAttestation : presentField members keyAttestationField KeyAttestationRef.read = some r.keyAttestation

theorem PublishRequest.readFrom_of_read (v : Json) (r : PublishRequest)
    (h : PublishRequest.read parseDateTime v = some r) : ∃ members,
      v.closedMembersFrom 21 PublishRequest.names = some members ∧
      PublishRequest.ReadFrom parseDateTime members r := by
  obtain ⟨members, hmembers, h⟩ := Option.bind_eq_some_iff.mp h
  obtain ⟨version, hVersion, h⟩ := Option.bind_eq_some_iff.mp h
  obtain ⟨supersedes, hSupersedes, h⟩ := Option.bind_eq_some_iff.mp h
  obtain ⟨agentId, hAgentId, h⟩ := Option.bind_eq_some_iff.mp h
  obtain ⟨contributors, hContributors, h⟩ := Option.bind_eq_some_iff.mp h
  obtain ⟨title, hTitle, h⟩ := Option.bind_eq_some_iff.mp h
  obtain ⟨contextType, hContextType, h⟩ := Option.bind_eq_some_iff.mp h
  obtain ⟨dataRefs, hDataRefs, h⟩ := Option.bind_eq_some_iff.mp h
  obtain ⟨derivedFrom, hDerivedFrom, h⟩ := Option.bind_eq_some_iff.mp h
  obtain ⟨visibility, hVisibility, h⟩ := Option.bind_eq_some_iff.mp h
  obtain ⟨contentHash, hContentHash, h⟩ := Option.bind_eq_some_iff.mp h
  obtain ⟨signature, hSignature, h⟩ := Option.bind_eq_some_iff.mp h
  obtain ⟨audience, hAudience, h⟩ := Option.bind_eq_some_iff.mp h
  obtain ⟨acdpVersion, hAcdpVersion, h⟩ := Option.bind_eq_some_iff.mp h
  obtain ⟨description, hDescription, h⟩ := Option.bind_eq_some_iff.mp h
  obtain ⟨summary, hSummary, h⟩ := Option.bind_eq_some_iff.mp h
  obtain ⟨lineageId, hLineageId, h⟩ := Option.bind_eq_some_iff.mp h
  obtain ⟨tags, hTags, h⟩ := Option.bind_eq_some_iff.mp h
  obtain ⟨domain, hDomain, h⟩ := Option.bind_eq_some_iff.mp h
  obtain ⟨expiresAt, hExpiresAt, h⟩ := Option.bind_eq_some_iff.mp h
  obtain ⟨dataPeriod, hDataPeriod, h⟩ := Option.bind_eq_some_iff.mp h
  obtain ⟨metadata, hMetadata, h⟩ := Option.bind_eq_some_iff.mp h
  obtain ⟨schemaUri, hSchemaUri, h⟩ := Option.bind_eq_some_iff.mp h
  obtain ⟨anchors, hAnchors, h⟩ := Option.bind_eq_some_iff.mp h
  obtain ⟨keyAttestation, hKeyAttestation, h⟩ := Option.bind_eq_some_iff.mp h
  obtain rfl := Option.some.inj h
  have hversion : (requiredField members "version" (Json.asUInt 32)).map UInt32.ofNat =
      some (UInt32.ofNat version) := by
    rw [hVersion, Option.map_some]
  exact ⟨members, hmembers, hversion, hSupersedes, hAgentId, hContributors, hTitle, hContextType, hDataRefs,
    hDerivedFrom, hVisibility, hContentHash, hSignature, hAudience, hAcdpVersion, hDescription, hSummary,
    hLineageId, hTags, hDomain, hExpiresAt, hDataPeriod, hMetadata, hSchemaUri, hAnchors, hKeyAttestation⟩

end Instants

namespace RegistryReceipt

def names : List String :=
  ["registry_did", "ctx_id", "lineage_id", "origin_registry", "created_at", "content_hash", "key_fingerprint",
    "signature"]

def read (env : LogEnv) (v : Json) : Option RegistryReceipt := do
  let members ← v.closedMembers names
  return {
    registryDid := ← strField members "registry_did"
    ctxId := ← strField members "ctx_id"
    lineageId := ← strField members "lineage_id"
    originRegistry := ← strField members "origin_registry"
    createdAt := ← msField members "created_at" env
    contentHash := ← strField members "content_hash"
    keyFingerprint := ← strField members "key_fingerprint"
    signature := ← (members.lookup "signature").bind Signature.read }

end RegistryReceipt

def LifecycleEventType.ofWire (s : String) : Option LifecycleEventType :=
  if s = "retracted" then some .retracted
  else if s = "republished" then some .republished
  else if Status.patternOk s then some (.other s)
  else none

namespace LifecycleEvent

def names : List String := ["event_id", "ctx_id", "event_type", "occurred_at", "actor", "reason", "signature"]

def readOccurredAt (env : LogEnv) (v : Json) : Option DateTime :=
  (v.asStr.filter (isCanonicalMsUtc env)).bind (fun raw => (env.parseFromRfc3339 raw).toOption)

def read (env : LogEnv) (v : Json) : Option LifecycleEvent := do
  let members ← v.closedMembersFrom 5 names
  return {
    eventId := ← strField members "event_id"
    ctxId := ← strField members "ctx_id"
    eventType := ← (strField members "event_type").bind LifecycleEventType.ofWire
    occurredAt := ← requiredField members "occurred_at" (readOccurredAt env)
    actor := ← strField members "actor"
    reason := ← presentField members "reason" Json.asStr
    signature := ← presentField members "signature" Signature.read }

end LifecycleEvent

end Acdp.Types
