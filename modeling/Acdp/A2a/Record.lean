import Acdp.A2a.Assembly
import Mathlib.Data.String.Basic

namespace Acdp.A2a

open Acdp.Types
open Acdp.Types.Json (insertMember optional)
open Acdp.Crypto
open Acdp.Producer
open Acdp.Provenance
open Std (ExtTreeMap)

def recordKey : String := "acdp:a2a"
def recordVersion : String := "acdp-a2a-artifact/1"
def acdpVersion : String := "0.5.0"
def anchorScheme : String := "a2a.artifact"
def maxEmbeddedBytes : ℕ := 65536
def defaultTitle : String := "A2A artifact"

def forbiddenTypes : List String :=
  ["acdp:mcp-tool-result", "acdp:trust-list", "acdp:key-attestation", "key-revocation", "acdp:key-revocation"]

def maxTitleChars : ℕ := 500
def maxName : ℕ := 256
def maxDescription : ℕ := 1024
def maxProtocolVersion : ℕ := 64

def recordLabel (value : Option String) (max : ℕ) : Option String :=
  (value.filter (fun s => s ≠ "")).map (truncate · max)

def recordName (name : Option String) : Option String := recordLabel name maxName

def recordDescription (description : Option String) : Option String := recordLabel description maxDescription

structure BodyTemplate where
  contextType : ContextType
  title : Option String
  metadata : List (String × Json)
  schemaUri : Option String
  visibility : Visibility
  audience : List AgentDid
  contributors : List AgentDid
  description : Option String
  domain : Option String
  tags : List String
  summary : Option String
  recordName : Bool
  recordDescription : Bool

def BodyTemplate.new (contextType : ContextType) : BodyTemplate where
  contextType := contextType
  title := none
  metadata := []
  schemaUri := none
  visibility := .private
  audience := []
  contributors := []
  description := none
  domain := none
  tags := []
  summary := none
  recordName := true
  recordDescription := true

inductive Embedding where
  | never
  | allowlisted (externalBase : Option String)
deriving DecidableEq, Repr

structure UrlContent where
  contentHash : ContentHash
  sizeBytes : UInt64
deriving DecidableEq, Repr

structure PreviousBody where
  ctxId : CtxId
  lineageId : LineageId
  version : UInt32
deriving DecidableEq, Repr

structure Completion where
  a2aProtocolVersion : String
  taskId : String
  contextId : String
  artifact : AssembledArtifact
  completedAt : DateTime
  derivedFrom : List CtxId
  previous : Option PreviousBody
  mapUrlParts : Bool
  urlContents : ExtTreeMap String UrlContent
  a2aArtifactHash : Option ContentHash

structure ExternalPayload where
  location : String
  hex : String
  bytes : List UInt8

structure Prepared where
  request : PublishRequest
  salt : Salt
  idempotencyKey : String
  external : Option ExternalPayload

def dataRefUri (refType : DataRefType) (uri : String) : DataRef where
  refType := refType
  description := none
  sizeBytes := none
  format := none
  schemaVersion := none
  contentHash := none
  location := some (.uri uri)
  embedded := none
  extensions := []

def mappableUrl (url : String) : Bool :=
  match Text.stripPrefix "https://" url with
  | none => false
  | some rest =>
    if rest.toList.any (fun c => c = '?' || c = '#') then false
    else
      let authority := rest.toList.takeWhile (· ≠ '/')
      !authority.isEmpty && '@' ∉ authority

section Prepare

variable (env : A2aEnv) (producer : Producer) (c : Completion) (template : BodyTemplate)
    (embedding : Embedding)

def idHash (id : String) (salt : Salt) : Except AcdpError String :=
  callHash env.toSaltEnv (.str id) (some salt)

def partsHash (parts : List Json) (salt : Option Salt) : Except AcdpError String :=
  callHash env.toSaltEnv (.arr parts) salt

def recordMembers (saltParts embedded : Bool) (artifactIdHash taskIdHash contextIdHash partsHash : String) :
    List (String × Json) :=
  [("record_version", .str recordVersion),
    ("a2a_protocol_version", .str (truncate c.a2aProtocolVersion maxProtocolVersion)),
    ("artifact_id_hash", .str artifactIdHash)] ++
  optional "role" .str c.artifact.recordRole ++
  [("task_id_hash", .str taskIdHash), ("context_id_hash", .str contextIdHash), ("parts_hash", .str partsHash),
    ("salted", .bool saltParts), ("embedded", .bool embedded)] ++
  optional "name" .str (if template.recordName then recordName c.artifact.name else none) ++
  optional "description" .str
    (if template.recordDescription then recordDescription c.artifact.description else none) ++
  [("completed_at", .str (env.fmtRfc3339Ms c.completedAt.truncMs))]

def buildRecord (salt : Salt) (saltParts embedded : Bool) : Except AcdpError (List (String × Json)) := do
  let artifactIdHash ← idHash env c.artifact.artifactId salt
  let taskIdHash ← idHash env c.taskId salt
  let contextIdHash ← idHash env c.contextId salt
  let partsHash ← partsHash env c.artifact.parts (if saltParts then some salt else none)
  return recordMembers env c template saltParts embedded artifactIdHash taskIdHash contextIdHash partsHash

def partsRef : Except AcdpError (Option (DataRef × Option ExternalPayload)) :=
  match embedding with
  | .never => .ok none
  | .allowlisted externalBase => do
    let parts : Json := .arr c.artifact.parts
    let bytes ← env.canonicalize parts
    if bytes.length ≤ maxEmbeddedBytes then
      return some ({ primaryResultJson .null with
        format := some "json"
        embedded := some ⟨.json, parts, none⟩ }, none)
    else match externalBase with
      | none => return none
      | some base =>
        let hash := encodeSha256Hex (env.sha256 bytes)
        let hex := trimStartMatches "sha256:" hash
        let location := externalLocation base hex
        return some ({ uriVerified .primaryResult location hash with
          format := some "json"
          sizeBytes := some bytes.length.toUInt64 }, some ⟨location, hex, bytes⟩)

def urlRef (p : Json) : Option DataRef := do
  let url ← (p.get "url").bind Json.asStr
  guard (mappableUrl url)
  let format := (p.get "mediaType").bind Json.asStr
  match c.urlContents[url]? with
  | some k => return { uriVerified .primaryResult url k.contentHash with
      sizeBytes := some k.sizeBytes
      format := format }
  | none => return { dataRefUri .primaryResult url with format := format }

def start : RequestBuilder :=
  match c.previous with
  -- `p.version + 1` wraps in a release build
  | some p =>
    [.version (p.version + 1), .expectedLineageId p.lineageId].foldl Setter.apply (.supersede p.ctxId)
  | none => .new

def titleOf : String :=
  truncate ((template.title.or (c.artifact.name.filter (fun n => n ≠ ""))).getD defaultTitle) maxTitleChars

def bodySetters (dataRefs : List DataRef) (metadata : List (String × Json)) : List Setter :=
  [.title (titleOf c template), .contextType template.contextType, .dataRefs dataRefs,
    .derivedFrom c.derivedFrom, .visibility template.visibility, .metadata (.obj metadata),
    .acdpVersion acdpVersion] ++
  (if template.contributors = [] then [] else [.contributors template.contributors]) ++
  (if template.audience = [] then [] else [.audience template.audience]) ++
  (template.schemaUri.map Setter.schemaUri).toList ++ (template.description.map Setter.description).toList ++
  (template.domain.map Setter.domain).toList ++ (if template.tags = [] then [] else [.tags template.tags]) ++
  (template.summary.map Setter.summary).toList ++
  (c.a2aArtifactHash.map (fun h => Setter.anchors [⟨anchorScheme, h, none, []⟩])).toList

def prepare (freshSalt : Except AcdpError Salt) : Except AcdpError Prepared := do
  if template.contextType.wire ∈ forbiddenTypes then
    .error (.schemaViolation ("type \"" ++ template.contextType.wire ++
      "\" carries an ACDP-defined record and cannot carry acdp:a2a (RFC-ACDP-0022 §4.1)"))
  if (template.metadata.lookup recordKey).isSome then
    .error (.schemaViolation ("metadata member " ++ recordKey ++
    " is reserved for the record (RFC-ACDP-0022 §4.5)"))
  if c.artifact.isClientWritten then
    .error (.schemaViolation
    "a ROLE_USER artifact is client-written and is never published (RFC-ACDP-0022 §4.2)")
  let ref ← partsRef env c embedding
  let embedded := ref.isSome
  let urlRefs := if c.mapUrlParts then c.artifact.parts.filterMap (urlRef c) else []
  let salt ← freshSalt
  let saltParts := !embedded
  if c.a2aArtifactHash.isSome ∧ saltParts = true ∧ template.visibility = .public then
    .error (.schemaViolation
    ("the a2a.artifact anchor undoes the salt and is not allowed on a public body " ++
      "with salted parts (RFC-ACDP-0022 §10)"))
  let record ← buildRecord env c template salt saltParts embedded
  let metadata := insertMember template.metadata recordKey (.obj record)
  let request ← ((bodySetters c template (ref.toList.map Prod.fst ++ urlRefs) metadata).foldl Setter.apply
    (start c)).build env.toPublishEnv producer
  return {
    request := request
    salt := salt
    idempotencyKey := "acdp-a2a-" ++ trimStartMatches "sha256:" request.contentHash
    external := ref.bind Prod.snd }

end Prepare

section Link

def published (env : A2aEnv) (ctxId : CtxId) (contentHash : ContentHash) (salt : Salt) : Json :=
  .obj [("ctx_id", .str ctxId), ("content_hash", .str contentHash),
    ("registry", .str (CtxId.authority ctxId)), ("salt", .str (salt.toBase64url env.toSaltEnv))]

def Prepared.link (p : Prepared) (env : A2aEnv) (ctxId : CtxId) : Json :=
  published env ctxId p.request.contentHash p.salt

def linkOf (artifact : Json) : Option Json := (artifact.get "metadata").bind (·.get linkKey)

end Link

end Acdp.A2a
