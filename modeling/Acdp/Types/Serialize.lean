import Acdp.Types.Records

namespace Acdp.Types

structure WireEnv extends Env where
  toRfc3339AutoSi : DateTime → String
  toVecLen : Json → ℕ

def fmtRfc3339Canonical (env : WireEnv) (t : DateTime) : String :=
  if t.nanos % 1000000 = 0 then env.fmtRfc3339Ms t else env.toRfc3339AutoSi t

namespace Json

def insertMember (members : List (String × Json)) (key : String) (value : Json) : List (String × Json) :=
  if key ∈ members.map Prod.fst then members.map (fun m => if m.1 = key then (key, value) else m)
  else members ++ [(key, value)]

def flattened (fields extensions : List (String × Json)) : List (String × Json) :=
  extensions.foldl (fun members m => insertMember members m.1 m.2) fields

def optional {α : Type} (key : String) (write : α → Json) (value : Option α) : List (String × Json) :=
  value.toList.map (fun v => (key, write v))

def strs (items : List String) : Json := .arr (items.map .str)

end Json

open Json (flattened strs)

def Visibility.wire : Visibility → String
  | .public => "public"
  | .restricted => "restricted"
  | .private => "private"

def DataRefType.wire : DataRefType → String
  | .primaryResult => "primary_result"
  | .rawData => "raw_data"
  | .supportingInfo => "supporting_info"
  | .derivedData => "derived_data"

def EmbeddedEncoding.wire : EmbeddedEncoding → String
  | .json => "json"
  | .utf8 => "utf8"
  | .base64 => "base64"

def Signature.toValue (s : Signature) : Json :=
  .obj [("algorithm", .str s.algorithm), ("key_id", .str s.keyId), ("value", .str s.value)]

def DataPeriod.toValue (env : WireEnv) (p : DataPeriod) : Json :=
  .obj [("start", .str (fmtRfc3339Canonical env p.start)), ("end", .str (fmtRfc3339Canonical env p.end))]

def Location.toValue : Location → Json
  | .uri u => .str u
  | .structured members => .obj members

def EmbeddedContent.toValue (e : EmbeddedContent) : Json :=
  .obj ([("encoding", .str e.encoding.wire), ("content", e.content)] ++ Json.optional "content_hash" .str
    e.contentHash)

def DataRef.fields (d : DataRef) : List (String × Json) :=
  [("type", .str d.refType.wire)] ++ Json.optional "description" .str d.description ++
    Json.optional "size_bytes" (fun n => .num (.posInt n)) d.sizeBytes ++
    Json.optional "format" .str d.format ++
    Json.optional "schema_version" .str d.schemaVersion ++ Json.optional "content_hash" .str d.contentHash ++
    Json.optional "location" Location.toValue d.location ++
    Json.optional "embedded" EmbeddedContent.toValue d.embedded

def DataRef.toValue (d : DataRef) : Json := .obj (flattened d.fields d.extensions)

def AnchorEntry.fields (a : AnchorEntry) : List (String × Json) :=
  [("scheme", .str a.scheme), ("content_hash", .str a.contentHash)] ++ Json.optional "uri" .str a.uri

def AnchorEntry.toValue (a : AnchorEntry) : Json := .obj (flattened a.fields a.extensions)

def nullable (value : Option String) : Json := value.elim .null .str

def PublishRequest.members (env : WireEnv) (r : PublishRequest) : List (String × Json) :=
  [("version", .num (.posInt r.version.toUInt64)), ("supersedes", nullable r.supersedes),
    ("agent_id", .str r.agentId), ("contributors", strs r.contributors), ("title", .str r.title),
    ("type", .str r.contextType.wire), ("data_refs", .arr (r.dataRefs.map DataRef.toValue)),
    ("derived_from", strs r.derivedFrom), ("visibility", .str r.visibility.wire),
    ("content_hash", .str r.contentHash), ("signature", r.signature.toValue)] ++
  Json.optional "audience" strs r.audience ++ Json.optional "acdp_version" .str r.acdpVersion ++
  Json.optional "description" .str r.description ++ Json.optional "summary" .str r.summary ++
  Json.optional "lineage_id" .str r.lineageId ++ Json.optional "tags" strs r.tags ++
  Json.optional "domain" .str r.domain ++
  Json.optional "expires_at" (fun t => .str (fmtRfc3339Canonical env t)) r.expiresAt ++
  Json.optional "data_period" (DataPeriod.toValue env) r.dataPeriod ++
  Json.optional "metadata" id r.metadata ++
  Json.optional "schema_uri" .str r.schemaUri ++
  Json.optional "anchors" (fun as => .arr (as.map AnchorEntry.toValue)) r.anchors ++
  Json.optional keyAttestationField KeyAttestationRef.toValue r.keyAttestation

def PublishRequest.toValue (env : WireEnv) (r : PublishRequest) : Json := .obj (r.members env)

def Body.fields (env : WireEnv) (b : Body) : List (String × Json) :=
  [("ctx_id", .str b.ctxId), ("lineage_id", .str b.lineageId), ("origin_registry", .str b.originRegistry),
    ("created_at", .str (fmtRfc3339Canonical env b.createdAt)), ("content_hash", .str b.contentHash),
    ("signature", b.signature.toValue), ("version", .num (.posInt b.version.toUInt64)),
    ("supersedes", nullable b.supersedes), ("agent_id", .str b.agentId),
    ("contributors", strs b.contributors), ("title", .str b.title), ("type", .str b.contextType.wire),
    ("data_refs", .arr (b.dataRefs.map DataRef.toValue)), ("derived_from", strs b.derivedFrom),
    ("visibility", .str b.visibility.wire)] ++
  Json.optional "audience" strs b.audience ++ Json.optional "acdp_version" .str b.acdpVersion ++
  Json.optional "description" .str b.description ++ Json.optional "summary" .str b.summary ++
  Json.optional "tags" strs b.tags ++ Json.optional "domain" .str b.domain ++
  Json.optional "expires_at" (fun t => .str (fmtRfc3339Canonical env t)) b.expiresAt ++
  Json.optional "data_period" (DataPeriod.toValue env) b.dataPeriod ++
  Json.optional "metadata" id b.metadata ++
  Json.optional "schema_uri" .str b.schemaUri ++
  Json.optional "anchors" (fun as => .arr (as.map AnchorEntry.toValue)) b.anchors

def Body.members (env : WireEnv) (b : Body) : List (String × Json) := flattened (b.fields env) b.extensions

def Body.toValue (env : WireEnv) (b : Body) : Json := .obj (b.members env)

end Acdp.Types
