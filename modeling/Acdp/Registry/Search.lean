import Acdp.Registry.Store
import Acdp.Types.Text

namespace Acdp.Registry.Search

open Acdp.Types
open Acdp.Registry.Store (Inner ContextTable projectStatus)

structure SearchParams where
  q : Option String
  contextType : Option String
  domain : Option String
  tags : Option String
  agentId : Option String
  schemaUri : Option String
  derivedFrom : Option String
  createdAfter : Option String
  createdBefore : Option String
  dataPeriodStartAfter : Option String
  dataPeriodEndBefore : Option String
  expiresAfter : Option String
  expiresBefore : Option String
  status : Option String
  limit : Option UInt32
  cursor : Option String

structure SearchResult where
  ctxId : CtxId
  lineageId : LineageId
  agentId : AgentDid
  title : String
  summary : Option String
  contextType : ContextType
  domain : Option String
  createdAt : DateTime
  status : Status
  visibility : Option Visibility
deriving DecidableEq, Repr

structure SearchResponse where
  «matches» : List SearchResult
  totalEstimate : Option ℕ
  nextCursor : Option String
deriving DecidableEq, Repr

/-- The library functions the search calls: Unicode lowercasing, chrono's RFC 3339 parser and the
standard base64 engine. -/
structure SearchEnv where
  toLowercase : String → String
  parseFromRfc3339 : String → Except String DateTime
  base64Encode : ByteArray → String
  base64Decode : String → Option ByteArray

def canSurfaceInSearch (body : Body) (requester : Option AgentDid) (anonymousPublicReads : Bool) :
    Bool :=
  match body.visibility with
  | .public => anonymousPublicReads || requester.isSome
  | .restricted =>
    match requester with
    | none => false
    | some r => r == body.agentId || body.audience.any (·.any (· == r))
  | .private => requester == some body.agentId

def parseOptRfc3339 (env : SearchEnv) : Option String → Except AcdpError (Option DateTime)
  | none => .ok none
  | some raw =>
    match env.parseFromRfc3339 raw with
    | .ok t => .ok (some t)
    | .error e => .error (.schemaViolation s!"malformed datetime '{raw}': {e}")

structure DateFilters where
  createdAfter : Option DateTime
  createdBefore : Option DateTime
  dpStartAfter : Option DateTime
  dpEndBefore : Option DateTime
  expiresAfter : Option DateTime
  expiresBefore : Option DateTime

def parseDateFilters (env : SearchEnv) (params : SearchParams) : Except AcdpError DateFilters := do
  let createdAfter ← parseOptRfc3339 env params.createdAfter
  let createdBefore ← parseOptRfc3339 env params.createdBefore
  let dpStartAfter ← parseOptRfc3339 env params.dataPeriodStartAfter
  let dpEndBefore ← parseOptRfc3339 env params.dataPeriodEndBefore
  let expiresAfter ← parseOptRfc3339 env params.expiresAfter
  let expiresBefore ← parseOptRfc3339 env params.expiresBefore
  return ⟨createdAfter, createdBefore, dpStartAfter, dpEndBefore, expiresAfter, expiresBefore⟩

def haystack (body : Body) : String :=
  let description := body.description.getD ""
  let summary := body.summary.getD ""
  let domain := body.domain.getD ""
  let tags := (body.tags.map (" ".intercalate ·)).getD ""
  s!"{body.title} {description} {summary} {domain} {body.agentId} {tags}"

def splitTags (tags : String) : List String :=
  ((Text.split ',' tags).map Text.trim).filter (· ≠ "")

def matchesDates (dates : DateFilters) (body : Body) : Bool :=
  dates.createdAfter.all (· ≤ body.createdAt) &&
  dates.createdBefore.all (body.createdAt ≤ ·) &&
  dates.dpStartAfter.all (fun after => body.dataPeriod.any (after ≤ ·.start)) &&
  dates.dpEndBefore.all (fun before => body.dataPeriod.any (·.end ≤ before)) &&
  dates.expiresAfter.all (fun after => body.expiresAt.any (after ≤ ·)) &&
  dates.expiresBefore.all (fun before => body.expiresAt.any (· ≤ before))

def matchesParams (env : SearchEnv) (params : SearchParams) (dates : DateFilters)
    (requester : Option AgentDid) (anonymousPublicReads : Bool) (now : DateTime) (ctx : FullContext) :
    Bool :=
  canSurfaceInSearch ctx.body requester anonymousPublicReads &&
  params.q.all (fun q => Text.contains (env.toLowercase (haystack ctx.body)) (env.toLowercase q)) &&
  params.domain.all (fun d => ctx.body.domain == some d) &&
  params.agentId.all (ctx.body.agentId == ·) &&
  params.contextType.all (ctx.body.contextType.wire == ·) &&
  params.derivedFrom.all (fun df => ctx.body.derivedFrom.any (· == df)) &&
  params.tags.all (fun tags => (splitTags tags).all (fun t =>
    (ctx.body.tags.getD []).any (· == t))) &&
  params.schemaUri.all (fun uri => ctx.body.schemaUri == some uri) &&
  matchesDates dates ctx.body &&
  (projectStatus ctx.registryState ctx.body now).asStr == params.status.getD "active"

/-- `created_at` descending, then `ctx_id` ascending: the comparison is not `Greater`. -/
def searchOrder (a b : FullContext) : Bool :=
  b.body.createdAt < a.body.createdAt ||
    (a.body.createdAt == b.body.createdAt && decide (a.body.ctxId ≤ b.body.ctxId))

def sortedMatches (env : SearchEnv) (s : Inner) (params : SearchParams) (requester : Option AgentDid)
    (anonymousPublicReads : Bool) (now : DateTime) : Except AcdpError (List FullContext) := do
  let dates ← parseDateFilters env params
  return (s.byCtx.values.filter
    (matchesParams env params dates requester anonymousPublicReads now)).mergeSort searchOrder

def cursorTtlMillis : ℤ := 3600000

def encodeCursor (env : SearchEnv) (createdAtMs : ℤ) (ctxId : String) (now : DateTime) : String :=
  env.base64Encode s!"{now.timestampMillis}:{createdAtMs}:{ctxId}".toByteArray

def saturatingSub (a b : ℤ) : ℤ := max (-2 ^ 63) (min (2 ^ 63 - 1) (a - b))

def decodeCursor (env : SearchEnv) (cursor : String) (now : DateTime) :
    Except AcdpError (Option (ℤ × String)) :=
  match env.base64Decode cursor with
  | none => .error (.invalidCursor "cursor is not valid base64")
  | some bytes =>
    match String.fromUTF8? bytes with
    | none => .error (.invalidCursor "cursor is not utf-8")
    | some decoded =>
      match Text.splitOnceChar ':' decoded with
      | none => .error (.invalidCursor "cursor missing anchor timestamp")
      | some (mintStr, rest) =>
        match Text.splitOnceChar ':' rest with
        | none => .error (.invalidCursor "cursor missing ctx_id")
        | some (anchorStr, ctxId) =>
          match Text.parseI64 mintStr with
          | none => .error (.invalidCursor "cursor mint millis is not an integer")
          | some mintMs =>
            match Text.parseI64 anchorStr with
            | none => .error (.invalidCursor "cursor anchor millis is not an integer")
            | some anchorMs =>
              if cursorTtlMillis < saturatingSub now.timestampMillis mintMs then .error .cursorExpired
              else .ok (some (anchorMs, ctxId))

def cursorAnchor (env : SearchEnv) (params : SearchParams) (now : DateTime) :
    Except AcdpError (Option (ℤ × String)) :=
  match params.cursor with
  | none => .ok none
  | some cursor => decodeCursor env cursor now

def afterAnchor (anchor : ℤ × String) (ctx : FullContext) : Bool :=
  ctx.body.createdAt.timestampMillis < anchor.1 ||
    (ctx.body.createdAt.timestampMillis == anchor.1 && decide (anchor.2 < ctx.body.ctxId))

def pageLimit (limit : Option UInt32) : ℕ := max 1 (min 100 (limit.getD 50).toNat)

def searchResult (now : DateTime) (ctx : FullContext) : SearchResult where
  ctxId := ctx.body.ctxId
  lineageId := ctx.body.lineageId
  agentId := ctx.body.agentId
  title := ctx.body.title
  summary := ctx.body.summary
  contextType := ctx.body.contextType
  domain := ctx.body.domain
  createdAt := ctx.body.createdAt
  status := projectStatus ctx.registryState ctx.body now
  visibility := some ctx.body.visibility

def retainAfter (anchor : Option (ℤ × String)) (found : List FullContext) : List FullContext :=
  match anchor with
  | none => found
  | some anchor => found.filter (afterAnchor anchor)

def searchPage (env : SearchEnv) (limit : ℕ) (now : DateTime) (total : ℕ) (found : List FullContext) :
    SearchResponse where
  «matches» := (found.take limit).map (searchResult now)
  totalEstimate := some total
  nextCursor :=
    if limit < found.length then
      found[limit - 1]?.map (fun c =>
        encodeCursor env c.body.createdAt.timestampMillis c.body.ctxId now)
    else none

def search (env : SearchEnv) (s : Inner) (params : SearchParams) (requester : Option AgentDid)
    (anonymousPublicReads : Bool) (now : DateTime) : Except AcdpError SearchResponse := do
  let found ← sortedMatches env s params requester anonymousPublicReads now
  let anchor ← cursorAnchor env params now
  return searchPage env (pageLimit params.limit) now found.length (retainAfter anchor found)

end Acdp.Registry.Search
