import Acdp.Did.Web
import Acdp.Types.Closed
import Mathlib.Data.List.Sort
import Mathlib.Data.Prod.Lex
import Std.Data.ExtTreeSet

namespace Acdp.Trust

open Acdp.Types
open Acdp.Did (asciiLower)
open Std (ExtTreeSet)

def trustListType : String := "acdp:trust-list"

def trustListVersion : String := "acdp-trust-list/1"

def trustReportVersion : String := "acdp-trust-report/1"

def receiptsProfile : String := "acdp-registry-receipts"

def maxEntries : ℕ := 1000

structure TrustScope where
  agentIds : Option (List String)
  agentIdPrefixes : Option (List String)
  didMethods : Option (List String)
  types : Option (List String)
deriving DecidableEq, Repr

def TrustScope.default : TrustScope := ⟨none, none, none, none⟩

structure TrustListEntry where
  registryDid : String
  origin : String
  receiptKeyFingerprints : Option (List String)
  requiredProfiles : Option (List String)
  scope : Option TrustScope
  validFrom : Option DateTime
  validUntil : Option DateTime
deriving DecidableEq, Repr

structure TrustList where
  trustListVersion : String
  listId : String
  serial : ℕ
  issuedAt : DateTime
  validFrom : DateTime
  validUntil : DateTime
  entries : List TrustListEntry
deriving DecidableEq, Repr

/-- `serdeError` is the text of serde's error for a value that is no trust list. -/
structure TrustEnv extends Env where
  serdeError : Json → String

section Read

def defaultedMembers (required : ℕ) (names : List String) : Json → Option (List (String × Json))
  | .obj members => if members.all (fun m => m.1 ∈ names) then some members else none
  | .arr items =>
    if required ≤ items.length ∧ items.length ≤ names.length then some (names.zip items) else none
  | _ => none

def strings (v : Json) : Option (List String) := v.asArray.bind (fun items => items.mapM Json.asStr)

def optStrings (members : List (String × Json)) (key : String) : Option (Option (List String)) :=
  match members.lookup key with
  | none | some .null => some none
  | some v => (strings v).map some

def parseMs (env : LogEnv) (raw : String) : Option DateTime :=
  if isCanonicalMsUtc env raw then (env.parseFromRfc3339 raw).toOption else none

def canonicalMs (env : LogEnv) (members : List (String × Json)) (key : String) : Option DateTime :=
  (strField members key).bind (parseMs env)

def optMs (env : LogEnv) (members : List (String × Json)) (key : String) : Option (Option DateTime) :=
  match members.lookup key with
  | none => some none
  | some v => (v.asStr.bind (parseMs env)).map some

def TrustScope.read (v : Json) : Option TrustScope := do
  let members ← defaultedMembers 0 ["agent_ids", "agent_id_prefixes", "did_methods", "types"] v
  return {
    agentIds := ← optStrings members "agent_ids"
    agentIdPrefixes := ← optStrings members "agent_id_prefixes"
    didMethods := ← optStrings members "did_methods"
    types := ← optStrings members "types" }

def optScope (members : List (String × Json)) : Option (Option TrustScope) :=
  match members.lookup "scope" with
  | none | some .null => some none
  | some v => (TrustScope.read v).map some

def TrustListEntry.read (env : LogEnv) (v : Json) : Option TrustListEntry := do
  let members ← defaultedMembers 2
    ["registry_did", "origin", "receipt_key_fingerprints", "required_profiles", "scope", "valid_from",
    "valid_until"] v
  return {
    registryDid := ← strField members "registry_did"
    origin := ← strField members "origin"
    receiptKeyFingerprints := ← optStrings members "receipt_key_fingerprints"
    requiredProfiles := ← optStrings members "required_profiles"
    scope := ← optScope members
    validFrom := ← optMs env members "valid_from"
    validUntil := ← optMs env members "valid_until" }

def TrustList.read (env : LogEnv) (v : Json) : Option TrustList := do
  let members ← v.closedMembers
    ["trust_list_version", "list_id", "serial", "issued_at", "valid_from", "valid_until", "entries"]
  return {
    trustListVersion := ← strField members "trust_list_version"
    listId := ← strField members "list_id"
    serial := ← uintField members "serial" 64
    issuedAt := ← canonicalMs env members "issued_at"
    validFrom := ← canonicalMs env members "valid_from"
    validUntil := ← canonicalMs env members "valid_until"
    entries := ← ((members.lookup "entries").bind Json.asArray).bind
      (fun items => items.mapM (TrustListEntry.read env)) }

end Read

section Validate

def fail (msg : String) : AcdpError := .schemaViolation ("trust list: " ++ msg)

def isLowerOrDigit (c : Char) : Bool := Text.isAsciiLowercase c || Text.isAsciiDigit c

def isListId (s : String) : Bool :=
  1 ≤ s.utf8ByteSize && s.utf8ByteSize ≤ 128 && s.toList.head?.any isLowerOrDigit &&
    s.toList.all (fun c => isLowerOrDigit c || c == '.' || c == '_' || c == '-')

def isHostname (s : String) : Bool :=
  s ≠ "" && s.utf8ByteSize ≤ 253 && (Text.split '.' s).all (fun label =>
    label ≠ "" && label.toList.all (fun c => isLowerOrDigit c || c == '-') &&
      label.toList.head? ≠ some '-' && label.toList.getLast? ≠ some '-')

def isMethodName (m : String) : Bool := m ≠ "" && m.toList.all isLowerOrDigit

def isDid (s : String) : Bool :=
  match (Text.stripPrefix "did:" s).bind (Text.splitOnceChar ':') with
  | none => false
  | some (method, id) =>
    7 ≤ s.utf8ByteSize && s.utf8ByteSize ≤ 2048 && isMethodName method && id ≠ "" &&
      id.toList.all (fun c =>
        Text.isAsciiAlphanumeric c || c == '.' || c == '_' || c == ':' || c == '%' || c == '-')

def isContextType (s : String) : Bool :=
  let ident (p : String) (extra : List Char) : Bool :=
    p.toList.head?.any Text.isAsciiLowercase &&
      p.toList.all (fun c => isLowerOrDigit c || c == '_' || extra.contains c)
  s ∈ ["data_snapshot", "analysis", "prediction", "alert", "key-revocation"] ||
    (Text.splitOnceChar ':' s).any (fun p => ident p.1 [] && ident p.2 ['-'])

def isSha256 (s : String) : Bool := (Text.stripPrefix "sha256:" s).any isLowerHex64

def isProfile (s : String) : Bool :=
  s.utf8ByteSize ≤ 64 && (Text.stripPrefix "acdp-" s).any (fun r =>
    r.toList.head?.any Text.isAsciiLowercase && r.toList.all (fun c => isLowerOrDigit c || c == '-'))

def stringArray (items : List String) (what : String) (max : ℕ) (ok : String → Bool) :
    Except AcdpError Unit :=
  if items = [] ∨ max < items.length then .error (fail s!"{what} must have 1..={max} items")
  else match items.find? (fun s => !ok s) with
    | some bad => .error (fail s!"{what} item '{bad}' is malformed")
    | none => if ¬ items.Nodup then .error (fail s!"{what} items must be unique") else .ok ()

def isAgentIdPrefix (p : String) : Bool :=
  p.utf8ByteSize ≤ 512 && ((Text.stripPrefix "did:" p).bind (Text.splitOnceChar ':')).any
    (fun r => isMethodName r.1)

def isDidMethod (m : String) : Bool := (Text.stripPrefix "did:" m).any isMethodName

def checkStrings (items : Option (List String)) (what : String) (max : ℕ) (ok : String → Bool) :
    Except String Unit :=
  match items with
  | none => .ok ()
  | some v => (stringArray v what max ok).mapError AcdpError.display

def TrustScope.validate (s : TrustScope) : Except String Unit := do
  if s = .default then .error "scope must have at least one member"
  checkStrings s.agentIds "scope.agent_ids" 1000 isDid
  checkStrings s.agentIdPrefixes "scope.agent_id_prefixes" 100 isAgentIdPrefix
  checkStrings s.didMethods "scope.did_methods" 16 isDidMethod
  checkStrings s.types "scope.types" 100 isContextType

def TrustListEntry.validate (e : TrustListEntry) : Except String Unit := do
  if ¬ isHostname e.origin then
    .error s!"origin '{e.origin}' is not a lowercase hostname without a port (§4.3)"
  if ¬ (Text.stripPrefix "did:web:" e.registryDid).any isHostname then
    .error s!"registry_did '{e.registryDid}' is not a did:web DID"
  if e.registryDid ≠ "did:web:" ++ e.origin then
    .error s!"registry_did '{e.registryDid}' is not did:web: + origin '{e.origin}' (§4.2)"
  checkStrings e.receiptKeyFingerprints "receipt_key_fingerprints" 16 isSha256
  checkStrings e.requiredProfiles "required_profiles" 32 isProfile
  match e.scope with
  | none => .ok ()
  | some s => s.validate

def TrustListEntry.requiresReceipt (e : TrustListEntry) : Bool :=
  e.receiptKeyFingerprints.isSome || e.requiredProfiles.any (fun p => p.any (· == receiptsProfile))

def validateEntry (p : TrustListEntry × ℕ) : Except AcdpError Unit :=
  p.1.validate.mapError (fun err => fail s!"entries[{p.2}]: {err}")

def TrustList.validate (l : TrustList) : Except AcdpError Unit := do
  if l.trustListVersion ≠ Trust.trustListVersion then
    .error (fail s!"trust_list_version '{l.trustListVersion}' is not '{Trust.trustListVersion}'")
  if ¬ isListId l.listId then .error (fail s!"list_id '{l.listId}' is malformed")
  if l.serial < 1 then .error (fail "serial must be ≥ 1")
  if l.validUntil ≤ l.validFrom then .error (fail "valid_from must be before valid_until")
  if maxEntries < l.entries.length then .error (fail s!"entries holds more than {maxEntries}")
  l.entries.zipIdx.forM validateEntry

def TrustList.fromMetadata (env : TrustEnv) (metadata : Json) : Except AcdpError TrustList :=
  match TrustList.read env.toLogEnv metadata with
  | none => .error (fail (env.serdeError metadata))
  | some list => do
    list.validate
    return list

end Validate

section Versions

structure IssuerPin where
  issuer : String
  listId : String
  issuerKeyFingerprints : Option (ExtTreeSet String)

def IssuerPin.series (p : IssuerPin) : String ×ₗ String := toLex (p.issuer, p.listId)

structure ListVersion where
  list : TrustList
  contentHash : String
  ctxId : Option String
  retracted : Bool
deriving DecidableEq, Repr

structure ListRejected where
  step : ℕ
  reason : String
deriving DecidableEq, Repr

structure VerifiedListBody where
  agentId : String
  contextType : String
  metadata : Option Json
  contentHash : String
  ctxId : Option String
  issuerKeyFingerprint : Option String
  issuerKeyRevoked : Bool
  retracted : Bool

def validateListVersion (env : TrustEnv) (pin : IssuerPin) (body : VerifiedListBody) :
    Except ListRejected ListVersion :=
  if body.agentId ≠ pin.issuer then
    .error ⟨2, s!"agent_id '{body.agentId}' is not the pinned issuer"⟩
  else if body.contextType ≠ trustListType then
    .error ⟨2, s!"type '{body.contextType}' is not '{trustListType}'"⟩
  else match body.metadata with
    | none => .error ⟨2, "no metadata"⟩
    | some metadata =>
      if (metadata.get "list_id").bind Json.asStr ≠ some pin.listId then
        .error ⟨2, "metadata.list_id is not the pinned list_id"⟩
      else if pin.issuerKeyFingerprints.any (fun allowed => !body.issuerKeyFingerprint.any (· ∈ allowed)) then
        .error ⟨3, "the verifying key is not a pinned issuer key"⟩
      else match TrustList.fromMetadata env metadata with
        | .error e => .error ⟨4, e.display⟩
        | .ok list =>
          if body.issuerKeyRevoked then .error ⟨5, "the issuer key is revoked for this version"⟩
          else .ok {
            list := list
            contentHash := body.contentHash
            ctxId := body.ctxId
            retracted := body.retracted }

inductive TrustPass where
  | latest
  | asOf
deriving DecidableEq, Repr

inductive ListStatus where
  | used
  | expired
  | invalid
deriving DecidableEq, Repr

inductive TrustReason where
  | originMismatch
  | registryMismatch
  | receiptRequired
  | receiptKeyUnpinned
  | profileMissing
  | entryWindow
  | scopeAgent
  | scopeDidMethod
  | scopeType
  | noEntry
  | listWindow
  | noValidVersion
  | rollback
  | equivocation
  | retracted
deriving DecidableEq, Repr

structure PinState where
  pin : IssuerPin
  status : ListStatus
  version : Option ListVersion
  reason : Option TrustReason

def advanceFloor (floor : Option ℕ) (versions : List ListVersion) : Option ℕ :=
  (versions.map (·.list.serial) ++ floor.toList).max?

def held (versions : List ListVersion) (t : DateTime) (pass : TrustPass) : List ListVersion :=
  versions.filter (fun v => pass = .latest ∨ v.list.issuedAt ≤ t)

def selectVersion (pin : IssuerPin) (versions : List ListVersion) (t : DateTime) (pass : TrustPass)
    (floor : Option ℕ) : PinState :=
  let state (status : ListStatus) (version : Option ListVersion) (reason : Option TrustReason) : PinState :=
    ⟨pin, status, version, reason⟩
  match ((held versions t pass).map (·.list.serial)).max? with
  | none => state .invalid none (some .noValidVersion)
  | some top =>
    if pass = .latest ∧ floor.any (top < ·) then state .invalid none (some .rollback)
    else
      let atTop := (held versions t pass).filter (fun v => v.list.serial = top)
      if 1 < (atTop.map (·.contentHash)).dedup.length then state .invalid none (some .equivocation)
      else if atTop.any (·.retracted) then state .invalid none (some .retracted)
      else match (atTop.find? (·.ctxId.isSome)).or atTop.head? with
        | none => state .invalid none none -- not reached: some held version has the top serial
        | some selected =>
          if ¬ (selected.list.validFrom ≤ t ∧ t < selected.list.validUntil) then
            state .expired (some selected) (some .listWindow)
          else state .used (some selected) none

end Versions

section Evaluate

inductive TrustOutcome where
  | trusted
  | expired
  | outOfScope
  | untrustedRegistry
  | listInvalid
deriving DecidableEq, Repr

def TrustOutcome.rank : TrustOutcome → ℕ
  | .trusted => 0
  | .expired => 1
  | .outOfScope => 2
  | .untrustedRegistry => 3
  | .listInvalid => 4

instance : LinearOrder TrustOutcome :=
  LinearOrder.lift' TrustOutcome.rank (fun a b h => by cases a <;> cases b <;> first | rfl | cases h)

structure TrustSubject where
  ctxId : String
  originRegistry : String
  agentId : String
  contextType : String
deriving DecidableEq, Repr

def TrustSubject.of (body : Body) (contextType : String) : TrustSubject :=
  ⟨body.ctxId, body.originRegistry, body.agentId, contextType⟩

structure ReceiptInput where
  registryDid : String
  registryKeyFingerprint : String
deriving DecidableEq, Repr

structure NodeTrust where
  ctxId : String
  outcome : TrustOutcome
  reason : Option TrustReason
  profilesChecked : Bool
  issuer : Option String
  listId : Option String
  entryIndex : Option ℕ
deriving DecidableEq, Repr

def inWindow (validFrom validUntil : Option DateTime) (t : DateTime) : Bool :=
  validFrom.all (· ≤ t) && validUntil.all (t < ·)

def didMethodOf (agentId : String) : String :=
  match Text.splitOnceChar ':' agentId with
  | some (scheme, rest) =>
    match Text.splitOnceChar ':' rest with
    | some (method, _) => scheme ++ ":" ++ method
    | none => agentId
  | none => agentId

def TrustScope.refuses (s : TrustScope) (b : TrustSubject) : Option TrustReason :=
  let listed := s.agentIds.any (fun ids => ids.any (· == b.agentId))
  let prefixed := s.agentIdPrefixes.any (fun ps => ps.any (fun p => Text.hasPrefix p b.agentId))
  if (s.agentIds.isSome ∨ s.agentIdPrefixes.isSome) ∧ ¬ listed ∧ ¬ prefixed then some .scopeAgent
  else if s.didMethods.any (fun methods => !methods.any (· == didMethodOf b.agentId)) then
    some .scopeDidMethod
  else if s.types.any (fun types => !types.any (· == b.contextType)) then some .scopeType
  else none

def entryOutcome (e : TrustListEntry) (b : TrustSubject) (origin : String) (receipt : Option ReceiptInput)
    (capabilities : Option (List String)) (t : DateTime) : Option (TrustOutcome × Option TrustReason) :=
  let refuse (o : TrustOutcome) (r : TrustReason) : Option (TrustOutcome × Option TrustReason) :=
    some (o, some r)
  if e.origin ≠ origin then none
  else if receipt.any (fun r => r.registryDid != e.registryDid) then
    refuse .untrustedRegistry .registryMismatch
  else if e.requiresReceipt ∧ receipt = none then refuse .untrustedRegistry .receiptRequired
  else if e.receiptKeyFingerprints.any (fun pinned =>
      receipt.any (fun r => !pinned.contains r.registryKeyFingerprint)) then
    refuse .untrustedRegistry .receiptKeyUnpinned
  else if capabilities.any (fun caps => e.requiredProfiles.any (fun required =>
      required.any (fun p => !caps.contains p))) then
    refuse .untrustedRegistry .profileMissing
  else if ¬ inWindow e.validFrom e.validUntil t then refuse .expired .entryWindow
  else match e.scope.bind (fun s => s.refuses b) with
    | some reason => refuse .outOfScope reason
    | none => some (.trusted, none)

def TrustSubject.authority (b : TrustSubject) : String :=
  asciiLower (Text.beforeChar '/' ((Text.stripPrefix "acdp://" b.ctxId).getD b.ctxId))

def TrustSubject.origin (b : TrustSubject) : String := asciiLower b.originRegistry

section Node

variable (b : TrustSubject) (t : DateTime) (receipt : Option ReceiptInput)
    (capabilities : Option (List String))

def node (outcome : TrustOutcome) (reason : Option TrustReason) (decided : Option (IssuerPin × ℕ)) :
    NodeTrust where
  ctxId := b.ctxId
  outcome := outcome
  reason := reason
  profilesChecked := capabilities.isSome
  issuer := decided.map (·.1.issuer)
  listId := decided.map (·.1.listId)
  entryIndex := decided.map (·.2)

def better (best : Option NodeTrust) (candidate : NodeTrust) : Option NodeTrust :=
  if best.all (fun n => candidate.outcome < n.outcome) then some candidate else best

def listStep (pin : IssuerPin) (best : Option NodeTrust) (p : TrustListEntry × ℕ) : Option NodeTrust :=
  match entryOutcome p.1 b b.origin receipt capabilities t with
  | none => best
  | some (o, r) => better best (node b capabilities o r (some (pin, p.2)))

def candidate (state : PinState) : NodeTrust :=
  match state.status, state.version with
  | .used, some v =>
    (v.list.entries.zipIdx.foldl (listStep b t receipt capabilities state.pin) none).getD
      (node b capabilities .untrustedRegistry (some .noEntry) none)
  | .expired, _ => node b capabilities .expired state.reason none
  | _, _ => node b capabilities .listInvalid state.reason none

def evaluate (pins : List PinState) : NodeTrust :=
  if b.authority ≠ b.origin then node b capabilities .untrustedRegistry (some .originMismatch) none
  else
    let ordered := pins.insertionSort (fun p q => p.pin.series ≤ q.pin.series)
    (ordered.foldl (fun best s => better best (candidate b t receipt capabilities s)) none).getD
      (node b capabilities .listInvalid (some .noValidVersion) none)

end Node

end Evaluate

section Report

structure ReportList where
  issuer : String
  listId : String
  status : ListStatus
  serial : Option ℕ
  contentHash : Option String
  ctxId : Option String
  reason : Option TrustReason
deriving DecidableEq, Repr

def ReportList.of (s : PinState) : ReportList :=
  let version := s.version.filter (fun _ => s.status = .used ∨ s.status = .expired)
  { issuer := s.pin.issuer
    listId := s.pin.listId
    status := s.status
    serial := version.map (·.list.serial)
    contentHash := version.map (·.contentHash)
    ctxId := version.bind (·.ctxId)
    reason := s.reason }

structure TrustReport where
  trustReportVersion : String
  pass : TrustPass
  evaluatedAt : String
  verdictDigest : Option String
  evidenceDigest : Option String
  lists : List ReportList
  nodes : List NodeTrust
  reportDigest : String
deriving DecidableEq, Repr

def TrustReport.new (env : TrustEnv) (digest : TrustReport → String) (pass : TrustPass) (t : DateTime)
    (pins : List PinState) (nodes : List NodeTrust) (verdictDigest evidenceDigest : Option String) :
    TrustReport :=
  let report : TrustReport := {
    trustReportVersion := Trust.trustReportVersion
    pass := pass
    evaluatedAt := env.fmtRfc3339Ms t
    verdictDigest := verdictDigest
    evidenceDigest := evidenceDigest
    lists := (pins.map ReportList.of).insertionSort
      (fun a b => toLex (a.issuer, a.listId) ≤ toLex (b.issuer, b.listId))
    nodes := nodes.insertionSort (fun a b => a.ctxId ≤ b.ctxId)
    reportDigest := "" }
  { report with reportDigest := digest report }

end Report

end Acdp.Trust
