import Acdp.Foundation.Utf16
import Acdp.Provenance.Hashing
import Mathlib.Data.List.Sort

namespace Acdp.Mcp

open Acdp.Types
open Acdp.Crypto
open Acdp.Producer
open Acdp.Provenance
open Acdp.Foundation

def contextType : String := "acdp:mcp-tool-result"

def schemaUri : String :=
  "https://schemas.agentcontextdistributionprotocol.io/v0.1.0/acdp-mcp-tool-result.schema.json"

def recordVersion : String := "acdp-mcp-tool-result/1"
def acdpVersion : String := "0.5.0"
def maxDerivedFrom : ℕ := 1000
def maxEmbeddedBytes : ℕ := 65536
def redactedArg : String := "<redacted>"
def titlePrefix : String := "MCP tool result: "
def maxTitleChars : ℕ := 500
def maxServerName : ℕ := 256
def maxServerVersion : ℕ := 128
def maxProtocolVersion : ℕ := 64
def maxTool : ℕ := 256

def hashedResult (result : List (String × Json)) : Json :=
  .obj (["content", "structuredContent", "isError"].filterMap
    (fun k => (result.lookup k).map (fun v => (k, v))))

def isErrorOf (result : List (String × Json)) : Bool :=
    ((result.lookup "isError").bind Json.asBool).getD false

inductive Transport where
  | stdio
  | streamableHttp
  | sse
deriving DecidableEq, Repr

def Transport.wire : Transport → String
  | .stdio => "stdio"
  | .streamableHttp => "streamable-http"
  | .sse => "sse"

def stdioDescriptor (command : String) (args : List String) (redact : List ℕ) : Json :=
  .obj [("command", .str command),
    ("args", .arr (args.mapIdx (fun i a => .str (if i ∈ redact then redactedArg else a))))]

def endpointHash (env : SaltEnv) (descriptor : Json) : Except AcdpError String := callHash env descriptor none

section DerivedFrom

def encodeUtf16 (s : String) : List ℕ := Utf16.encode s.toList

def utf16Le {α : Type} (a b : String × α) : Prop := encodeUtf16 a.1 ≤ encodeUtf16 b.1

instance {α : Type} : DecidableRel (utf16Le (α := α)) :=
  fun a b => inferInstanceAs (Decidable (encodeUtf16 a.1 ≤ encodeUtf16 b.1))

mutual

def walk (v : Json) (out : List CtxId) : List CtxId :=
  if maxDerivedFrom ≤ out.length then out
  else match v with
    | .str s =>
      match CtxId.parse s with
      | .ok id => if id ∈ out then out else out ++ [id]
      | .error _ => out
    | .arr items => (walkItems items).foldl (fun out f => f out) out
    | .obj members => ((walkMembers members).insertionSort utf16Le).foldl (fun out p => p.2 out) out
    | _ => out

def walkItems : List Json → List (List CtxId → List CtxId)
  | [] => []
  | v :: rest => walk v :: walkItems rest

def walkMembers : List (String × Json) → List (String × (List CtxId → List CtxId))
  | [] => []
  | (k, v) :: rest => (k, walk v) :: walkMembers rest

end

def derivedFrom (arguments : Json) : List CtxId := walk arguments []

end DerivedFrom

structure ServerIdentity where
  name : String
  version : Option String
  protocolVersion : String
  transport : Transport
  endpointHash : String
deriving DecidableEq, Repr

structure ToolCall where
  tool : String
  arguments : Json
  requestId : Option Json
  result : List (String × Json)
  startedAt : DateTime
  completedAt : DateTime
deriving DecidableEq

inductive Embedding where
  | never
  | allowlisted (externalBase : Option String)
deriving DecidableEq, Repr

structure BodyOptions where
  visibility : Visibility
  audience : List AgentDid
  embedding : Embedding

structure ExternalPayload where
  location : String
  hex : String
  bytes : List UInt8

structure Prepared where
  request : PublishRequest
  salt : Option Salt
  idempotencyKey : String
  external : Option ExternalPayload

section Prepare

variable (env : SaltEnv) (producer : Producer) (server : ServerIdentity) (call : ToolCall)
    (opts : BodyOptions)

def resultRef (hashed : Json) : Except AcdpError (Option (DataRef × Option ExternalPayload)) :=
  match opts.embedding with
  | .never => .ok none
  | .allowlisted externalBase => do
    let bytes ← env.canonicalize hashed
    if bytes.length ≤ maxEmbeddedBytes then
      return some ({ primaryResultJson .null with
        format := some "json"
        embedded := some ⟨.json, hashed, none⟩ }, none)
    else match externalBase with
      | none => return none
      | some base =>
        let hash ← computeContentHash env.toEnv hashed
        let hex := trimStartMatches "sha256:" hash
        let location := externalLocation base hex
        return some ({ uriVerified .primaryResult location hash with
          format := some "json"
          sizeBytes := some bytes.length.toUInt64 }, some ⟨location, hex, bytes⟩)

def serverMembers : List (String × Json) :=
  [("name", .str (truncate server.name maxServerName))] ++
  Json.optional "version" (fun v => .str (truncate v maxServerVersion)) server.version ++
  [("transport", .str server.transport.wire), ("endpoint_hash", .str server.endpointHash)]

def recordMembers (salt : Option Salt) (embedded : Bool) (argumentsHash resultHash : String)
    (requestIdHash : Option String) : List (String × Json) :=
  [("record_version", .str recordVersion),
    ("mcp_protocol_version", .str (truncate server.protocolVersion maxProtocolVersion)),
    ("server", .obj (serverMembers server)), ("tool", .str call.tool), ("arguments_hash", .str argumentsHash),
    ("result_hash", .str resultHash)] ++
  Json.optional "request_id_hash" .str requestIdHash ++
  [("is_error", .bool (isErrorOf call.result)), ("salted", .bool salt.isSome), ("embedded", .bool embedded),
    ("started_at", .str (env.fmtRfc3339Ms call.startedAt.truncMs)),
    ("completed_at", .str (env.fmtRfc3339Ms call.completedAt.truncMs))]

def requestIdHash (salt : Option Salt) : Except AcdpError (Option String) :=
  match call.requestId with
  | none => .ok none
  | some id => (callHash env id salt).map some

def bodySetters (dataRefs : List DataRef) (record : List (String × Json)) : List Setter :=
  [.title (truncate (titlePrefix ++ server.name ++ "/" ++ call.tool) maxTitleChars),
    .contextType (.custom contextType), .schemaUri schemaUri, .dataRefs dataRefs,
    .derivedFrom (derivedFrom call.arguments), .visibility opts.visibility,
    .metadata (.obj record), .acdpVersion acdpVersion] ++
  (if opts.audience = [] then [] else [.audience opts.audience])

/-- `fresh_salt` is asked only for a record that is salted. -/
def drawSalt (embedded : Bool) (freshSalt : Except AcdpError Salt) : Except AcdpError (Option Salt) :=
  if embedded then .ok none else freshSalt.map some

def prepare (freshSalt : Except AcdpError Salt) : Except AcdpError Prepared := do
  let hashed := hashedResult call.result
  let ref ← resultRef env opts hashed
  let salt ← drawSalt ref.isSome freshSalt
  if maxTool < call.tool.length then .error (.schemaViolation s!"tool name exceeds {maxTool} characters")
  let argumentsHash ← callHash env call.arguments salt
  let resultHash ← callHash env hashed salt
  let idHash ← requestIdHash env call salt
  let record := recordMembers env server call salt ref.isSome argumentsHash resultHash idHash
  let request ← ((bodySetters server call opts (ref.toList.map Prod.fst) record).foldl Setter.apply
    RequestBuilder.new).build env.toPublishEnv producer
  return {
    request := request
    salt := salt
    idempotencyKey := "acdp-mcp-" ++ trimStartMatches "sha256:" request.contentHash
    external := ref.bind Prod.snd }

end Prepare

section Provenance

def metaKey : String := "io.agentcontextdistributionprotocol/provenance"

def published (env : SaltEnv) (ctxId : CtxId) (contentHash : ContentHash) (salt : Option Salt) : Json :=
  .obj ([("ctx_id", .str ctxId), ("content_hash", .str contentHash),
    ("registry", .str (CtxId.authority ctxId))] ++
    Json.optional "salt" (fun s => .str (Salt.toBase64url env s)) salt)

def attach (result : List (String × Json)) (value : Json) : List (String × Json) × Bool :=
  match result.lookup "_meta" with
  | none => (Json.insertMember result "_meta" (.obj [(metaKey, value)]), true)
  | some (.obj entries) =>
    if (entries.lookup metaKey).isSome then (result, false)
    else (Json.insertMember result "_meta" (.obj (Json.insertMember entries metaKey value)), true)
  | some _ => (result, false)

end Provenance

end Acdp.Mcp
