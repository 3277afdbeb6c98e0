import Acdp.Mcp.Record

namespace Acdp.Mcp

open Acdp.Types
open Acdp.Crypto
open Acdp.Provenance

/-- The failures of `verify_link`, with the step; `panicked` stands for a panic of the canonicalization. -/
inductive LinkError where
  | unrecognised (step : ℕ) (reason : String)
  | mismatch (step : ℕ) (reason : String)
  | panicked (e : AcdpError)
deriving DecidableEq, Repr

structure HeldCall where
  tool : String
  result : List (String × Json)
  arguments : Option Json
  requestId : Option Json

def recordKeys : List String :=
  ["record_version", "mcp_protocol_version", "server", "tool", "arguments_hash", "result_hash",
    "request_id_hash", "is_error", "salted", "embedded", "started_at", "completed_at"]

def serverKeys : List String := ["name", "version", "transport", "endpoint_hash"]

def checkServer (s : List (String × Json)) : Except String Unit := do
  checkKeys "server" serverKeys s
  if ¬ boundedStr (s.lookup "name") 256 then .error "bad server.name"
  if (s.lookup "version").isSome ∧ ¬ boundedStr (s.lookup "version") 128 then .error "bad server.version"
  if ¬ ((s.lookup "transport").bind Json.asStr).any (fun t => t ∈ ["stdio", "streamable-http", "sse"]) then
    .error "bad server.transport"
  if ¬ (s.lookup "endpoint_hash").any isHash then .error "bad server.endpoint_hash"
  else .ok ()

def checkMembers (m : List (String × Json)) : Except String Unit := do
  checkKeys "record" recordKeys m
  if (m.lookup "record_version").bind Json.asStr ≠ some recordVersion then
    .error ("record_version is not " ++ recordVersion)
  if ¬ boundedStr (m.lookup "mcp_protocol_version") 64 then .error "bad mcp_protocol_version"
  if ¬ boundedStr (m.lookup "tool") 256 then .error "bad tool"
  checkEach m ["arguments_hash", "result_hash"] isHash
  if (m.lookup "request_id_hash").any (fun v => !isHash v) then .error "bad request_id_hash"
  checkEach m ["is_error", "salted", "embedded"] isBoolean
  checkEach m ["started_at", "completed_at"] isTimestamp
  match (m.lookup "server").bind Json.asObject with
  | none => .error "server is not an object"
  | some s => checkServer s

def checkRecord (record : Json) : Except String Unit :=
  match record.asObject with
  | none => .error "record is not an object"
  | some m => checkMembers m

section Verify

variable (env : SaltEnv)

def hashOrPanic (value : Json) (salt : Option Salt) : Except LinkError String :=
  match callHash env value salt with
  | .error e => .error (.panicked e)
  | .ok hash => .ok hash

def bindLink (body : Body) (link : List (String × Json)) : Except LinkError Unit :=
  let field (k : String) := (link.lookup k).bind Json.asStr
  if (link.lookup "failed").isSome then .error (.unrecognised 1 "link records a failed publish")
  else if field "ctx_id" ≠ some body.ctxId then .error (.unrecognised 1 "body ctx_id differs from the link's")
  else if field "registry" ≠ some body.originRegistry then
    .error (.unrecognised 1 "body origin_registry differs from the link's registry")
  else if field "content_hash" ≠ some body.contentHash then
    .error (.unrecognised 1 "body content_hash differs from the link's")
  else .ok ()

/-- serde_json's text of a string; unlike the canonical one it has short escapes for U+0008 and U+000C. -/
def displayChar (c : Char) : List Char :=
  if c.toNat = 0x08 then ['\\', 'b'] else if c.toNat = 0x0C then ['\\', 'f'] else Jcs.escapeChar c

def displayStr (s : String) : String := String.ofList ('"' :: (s.toList.flatMap displayChar ++ ['"']))

def trustedRecord (body : Body) (trustedProxies : List AgentDid) : Except LinkError (List (String × Json)) :=
  if body.agentId ∉ trustedProxies then .error (.unrecognised 2 (body.agentId ++ " is not a trusted proxy"))
  else if body.contextType.wire ≠ contextType then
    .error (.unrecognised 2 ("type is " ++ displayStr body.contextType.wire ++ ", not " ++ contextType))
  else match body.metadata with
    | none => .error (.unrecognised 2 "no metadata")
    | some record =>
      match checkRecord record with
      | .error reason => .error (.unrecognised 2 reason)
      | .ok () => .ok (record.asObject.getD [])

def linkSalt (record link : List (String × Json)) : Except LinkError (Option Salt) :=
  let salted := record.lookup "salted" = some (.bool true)
  match (link.lookup "salt").bind Json.asStr with
  | some s =>
    if salted then
      match Salt.fromBase64url env s with
      | .error e => .error (.mismatch 3 e.display)
      | .ok salt => .ok (some salt)
    else .error (.mismatch 3 "record is unsalted but the link has a salt")
  | none =>
    if salted then .error (.mismatch 3 "record is salted but the link has no salt")
    else if (link.lookup "salt").isSome then .error (.mismatch 3 "salt is not a string")
    else .ok none

def matchResult (record : List (String × Json)) (salt : Option Salt) (held : HeldCall) :
    Except LinkError Unit := do
  let resultHash ← hashOrPanic env (hashedResult held.result) salt
  if record.lookup "result_hash" ≠ some (.str resultHash) then
    .error (.mismatch 4 "result_hash does not match the held result")
  if record.lookup "tool" ≠ some (.str held.tool) then
    .error (.mismatch 4 "tool differs from the params.name called")
  if record.lookup "is_error" ≠ some (.bool (isErrorOf held.result)) then
    .error (.mismatch 4 "is_error differs from the held isError")
  else .ok ()

def matchArguments (record : List (String × Json)) (salt : Option Salt) (held : HeldCall) :
    Except LinkError Unit :=
  match held.arguments with
  | none => .ok ()
  | some arguments => do
    let argumentsHash ← hashOrPanic env arguments salt
    if record.lookup "arguments_hash" ≠ some (.str argumentsHash) then
      .error (.mismatch 5 "arguments_hash does not match the arguments sent")
    else .ok ()

def matchRequestId (record : List (String × Json)) (salt : Option Salt) (held : HeldCall) :
    Except LinkError Unit :=
  match held.requestId, record.lookup "request_id_hash" with
  | some id, some h => do
    let idHash ← hashOrPanic env id salt
    if h ≠ .str idHash then .error (.mismatch 5 "request_id_hash does not match the request id sent")
    else .ok ()
  | _, _ => .ok ()

def verifyLink (body : Body) (link : Json) (trustedProxies : List AgentDid) (held : HeldCall) :
    Except LinkError Unit :=
  match link.asObject with
  | none => .error (.unrecognised 1 "link is not an object")
  | some link => do
    bindLink body link
    let record ← trustedRecord body trustedProxies
    let salt ← linkSalt env record link
    matchResult env record salt held
    matchArguments env record salt held
    matchRequestId env record salt held

end Verify

end Acdp.Mcp
