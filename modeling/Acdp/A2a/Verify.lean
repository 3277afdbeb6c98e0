import Acdp.A2a.Record

namespace Acdp.A2a

open Acdp.Types
open Acdp.Crypto
open Acdp.Provenance

inductive FailureKind where
  | failedLink
  | linkInvalid
  | bodyUnverified
  | linkMismatch
  | untrustedAgent
  | cardMismatch
  | aidMismatch
  | recordInvalid
  | saltInvalid
  | partsMismatch
  | artifactIdMismatch
  | labelMismatch
  | roleMismatch
  | taskMismatch
  | contextMismatch
deriving DecidableEq, Repr

structure VerifyFailure where
  kind : FailureKind
  reason : String
deriving DecidableEq, Repr

/-- A failed verification; `panicked` stands for a panic of the canonicalization. -/
inductive VerifyError where
  | failure (f : VerifyFailure)
  | panicked (e : AcdpError)
deriving DecidableEq, Repr

abbrev fail {α : Type} (kind : FailureKind) (reason : String) : Except VerifyError α :=
  .error (.failure ⟨kind, reason⟩)

inductive TrustedAgents where
  | only (agents : List AgentDid)
  | deferToCaller
deriving DecidableEq, Repr

structure CardParams where
  registry : String
  agentId : AgentDid
deriving DecidableEq, Repr

structure CardContext where
  pointer : Option CardParams
  aitpAids : List String
deriving DecidableEq, Repr

structure HolderPolicy where
  trusted : TrustedAgents
  card : Option CardContext
deriving DecidableEq, Repr

structure HeldArtifact where
  artifact : Json
  taskId : Option String
  contextId : Option String
deriving DecidableEq

structure HolderVerdict where
  ctxId : CtxId
  agentId : AgentDid
  status : Option Status
  taskChecked : Bool
  contextChecked : Bool
deriving DecidableEq, Repr

section Card

variable (env : A2aEnv)

theorem compressed_pos : 0 < 33 := by decide

def aidKey (aid : String) : Option DidKeyMaterial := do
  let rest ← Text.stripPrefix "aid:pubkey:" aid
  let decode (s : String) : Option (List UInt8) := (env.base64UrlDecode s).toOption
  match Text.stripPrefix "ed25519:" rest with
  | some k => return .ed25519 (← sizedBytes 32 (← decode k))
  | none =>
    match Text.stripPrefix "p256:" rest with
    | some k =>
      let key ← sizedBytes 33 (← decode k)
      guard (key.get ⟨0, compressed_pos⟩ = 0x02 ∨ key.get ⟨0, compressed_pos⟩ = 0x03)
      return .ecdsaP256 key
    | none =>
      guard (':' ∉ rest.toList)
      return .ed25519 (← sizedBytes 32 (← decode rest))

def aidMatchesDidKey (aid : String) (agentId : AgentDid) : Bool :=
  Text.hasPrefix "did:key:" agentId &&
    match aidKey env aid, resolveDidKey env.toEnv agentId with
    | some a, .ok d => a = d
    | _, _ => false

end Card

section Record

def recordKeys : List String :=
  ["record_version", "a2a_protocol_version", "artifact_id_hash", "role", "task_id_hash", "context_id_hash",
    "parts_hash", "salted", "embedded", "name", "description", "completed_at"]

def checkMembers (m : List (String × Json)) : Except String Unit := do
  checkKeys "record" recordKeys m
  if (m.lookup "record_version").bind Json.asStr ≠ some recordVersion then
    .error ("record_version is not " ++ recordVersion)
  if ¬ boundedStr (m.lookup "a2a_protocol_version") 64 then .error "bad a2a_protocol_version"
  checkEach m ["artifact_id_hash", "task_id_hash", "context_id_hash", "parts_hash"] isHash
  if (m.lookup "role").any (fun r => r ≠ .str roleAgent) then .error "role is not ROLE_AGENT"
  checkEach m ["salted", "embedded"] isBoolean
  if m.lookup "salted" = some (.bool false) ∧ m.lookup "embedded" = some (.bool false) then
    .error "salted false is allowed only with embedded true"
  if (m.lookup "name").isSome ∧ ¬ boundedStr (m.lookup "name") 256 then .error "bad name"
  if (m.lookup "description").isSome ∧ ¬ boundedStr (m.lookup "description") 1024 then
    .error "bad description"
  if ¬ (m.lookup "completed_at").any isTimestamp then .error "bad completed_at"
  else .ok ()

def checkRecord (record : Json) : Except String Unit :=
  match record.asObject with
  | none => .error "record is not an object"
  | some m => checkMembers m

end Record

section Verify

variable (env : A2aEnv)

def hashOrPanic (hash : Except AcdpError String) : Except VerifyError String :=
  match hash with
  | .error e => .error (.panicked e)
  | .ok hash => .ok hash

def publishedLink (held : HeldArtifact) : Except VerifyError (List (String × Json)) :=
  match linkOf held.artifact with
  | none => fail .linkInvalid "artifact has no io.agentcontextdistributionprotocol/provenance"
  | some link =>
    match link.asObject with
    | none => fail .linkInvalid "link is not an object"
    | some link =>
      if (link.lookup "failed").isSome then fail .failedLink "link records a failed publish and names no body"
      else match link.find? (fun m => m.1 ∉ ["ctx_id", "content_hash", "registry", "salt"]) with
        | some m => fail .linkInvalid ("unknown link member '" ++ m.1 ++ "'")
        | none => .ok link

def bindLink (body : Body) (link : List (String × Json)) : Except VerifyError Unit :=
  let field (k : String) := (link.lookup k).bind Json.asStr
  if field "ctx_id" ≠ some body.ctxId then fail .linkMismatch "body ctx_id differs from the link's"
  else if field "registry" ≠ some body.originRegistry then
    fail .linkMismatch "body origin_registry differs from the link's registry"
  else if field "content_hash" ≠ some body.contentHash then
    fail .linkMismatch "body content_hash differs from the link's"
  else .ok ()

def checkAgent (body : Body) (policy : HolderPolicy) : Except VerifyError Unit := do
  match policy.trusted with
  | .only list =>
    if body.agentId ∉ list then fail .untrustedAgent (body.agentId ++ " is not a trusted agent") else .ok ()
  | .deferToCaller => .ok ()
  match policy.card with
  | none => .ok ()
  | some card => do
    match card.pointer with
    | none => .ok ()
    | some p =>
      if p.agentId ≠ body.agentId then
        fail .cardMismatch ("Card params.agentId " ++ p.agentId ++ " differs from agent_id " ++ body.agentId)
      else .ok ()
    if Text.hasPrefix "did:key:" body.agentId then
      match card.aitpAids.find? (fun aid => !aidMatchesDidKey env aid body.agentId) with
      | some aid => fail .aidMismatch ("did:key agent_id does not encode the Card's AITP AID " ++ aid)
      | none => .ok ()
    else .ok ()

def recordOf (body : Body) : Except VerifyError (List (String × Json)) :=
  match body.metadata.bind (·.get recordKey) with
  | none => fail .recordInvalid "metadata has no acdp:a2a record"
  | some record =>
    match checkRecord record with
    | .error reason => fail .recordInvalid reason
    | .ok () => .ok (record.asObject.getD [])

def linkSalt (link : List (String × Json)) : Except VerifyError Salt :=
  match link.lookup "salt" with
  | some (.str s) =>
    match Salt.fromBase64url env.toSaltEnv s with
    | .error e => fail .saltInvalid e.display
    | .ok salt => .ok salt
  | some _ => fail .saltInvalid "salt is not a string"
  | none => fail .saltInvalid "link has no salt; the id hashes are always salted"

def heldParts (artifact : List (String × Json)) : Except VerifyError (List Json) :=
  match artifact.lookup "parts" with
  | some (.arr p) =>
    match normalizeParts env p with
    | .error e => fail .partsMismatch e.display
    | .ok parts => .ok parts
  | none => .ok []
  | some .null => .ok []
  | some _ => fail .partsMismatch "held parts is not an array"

def heldId (artifact : List (String × Json)) : Except VerifyError String :=
  match (artifact.lookup "artifactId").bind Json.asStr with
  | none => fail .artifactIdMismatch "held artifact has no artifactId"
  | some id => .ok id

def checkLabel (record artifact : List (String × Json)) (key : String) (label : Option String → Option String)
    (reason : String) : Except VerifyError Unit :=
  match record.lookup key with
  | none => .ok ()
  | some n =>
    if label ((artifact.lookup key).bind Json.asStr) ≠ n.asStr then fail .labelMismatch reason else .ok ()

def heldRole (artifact : List (String × Json)) : String :=
  match (artifact.lookup "role").bind Json.asStr with
  | none => roleAgent
  | some r => if r = roleUnspecified then roleAgent else r

def matchArtifact (record artifact : List (String × Json)) (salt : Salt) : Except VerifyError Unit := do
  let parts ← heldParts env artifact
  let salted := record.lookup "salted" = some (.bool true)
  let partsHash ← hashOrPanic (partsHash env parts (if salted then some salt else none))
  if record.lookup "parts_hash" ≠ some (.str partsHash) then
    fail .partsMismatch "parts_hash does not match the held parts"
  let id ← heldId artifact
  let idHash ← hashOrPanic (idHash env id salt)
  if record.lookup "artifact_id_hash" ≠ some (.str idHash) then
    fail .artifactIdMismatch "artifact_id_hash does not match the held artifactId"
  checkLabel record artifact "name" recordName "record name differs from the held name"
  checkLabel record artifact "description" recordDescription
    "record description differs from the held description"
  if (record.lookup "role").any (fun r => r ≠ .str (heldRole artifact)) then
    fail .roleMismatch "record role differs from the held role"
  else .ok ()

def matchId (record : List (String × Json)) (salt : Salt) (key : String) (id : Option String)
    (kind : FailureKind) (reason : String) : Except VerifyError Unit :=
  match id with
  | none => .ok ()
  | some id => do
    let hash ← hashOrPanic (idHash env id salt)
    if record.lookup key ≠ some (.str hash) then fail kind reason else .ok ()

def heldObject (held : HeldArtifact) : Except VerifyError (List (String × Json)) :=
  match held.artifact.asObject with
  | none => fail .partsMismatch "held artifact is not an object"
  | some artifact => .ok artifact

def verifyAgainstBody (body : Body) (status : Option Status) (held : HeldArtifact) (policy : HolderPolicy) :
    Except VerifyError HolderVerdict := do
  let link ← publishedLink held
  bindLink body link
  checkAgent env body policy
  let record ← recordOf body
  let salt ← linkSalt env link
  let artifact ← heldObject held
  matchArtifact env record artifact salt
  matchId env record salt "task_id_hash" held.taskId .taskMismatch "task_id_hash does not match the task id"
  matchId env record salt "context_id_hash" held.contextId .contextMismatch
    "context_id_hash does not match the context id"
  return {
    ctxId := body.ctxId
    agentId := body.agentId
    status := status
    taskChecked := held.taskId.isSome
    contextChecked := held.contextId.isSome }

end Verify

end Acdp.A2a
