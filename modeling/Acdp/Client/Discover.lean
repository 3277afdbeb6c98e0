import Acdp.Client.Errors
import Acdp.Registry.Search
import Acdp.Types.Identifiers

namespace Acdp.Client

open Acdp.Types
open Acdp.Registry.Search (SearchParams SearchResult SearchResponse)

def maxSearchPages : ℕ := 10
def maxLineageWalks : ℕ := 100

/-- The registry and the candidate check, with a state of their own: any answer may come at any call. -/
structure Network (σ : Type) where
  search : SearchParams → σ → Except ClientError SearchResponse × σ
  retrieve : CtxId → σ → Except ClientError FullContext × σ
  lineage : LineageId → σ → Except ClientError (List FullContext) × σ
  verifyRevocationCandidate : FullContext → σ → Except ClientError KeyRevocation × σ

structure Candidate where
  ctx : FullContext
  outcome : Option (Except ClientError KeyRevocation)

inductive Exchange where
  | searched (params : SearchParams) (response : SearchResponse)
  | retrieved (requested : CtxId) (candidate : Candidate)
  | walked (lineageId : LineageId) (members : List Candidate)

/-- The variables of `discover_revocations`. `lineage_seen` holds the ids of `lineageOrder`; `trace`
records what was served. -/
structure Discovery (σ : Type) where
  world : σ
  revocations : List KeyRevocation
  deferred : List FullContext
  seen : List CtxId
  lineageOrder : List LineageId
  lineageExpect : List (LineageId × CtxId)
  trace : List Exchange

structure Walked where
  verified : List (CtxId × KeyRevocation)
  deferred : List FullContext

structure DiscoveryParams where
  searchAgentId : String
  fnName : String
  identityLabel : String
  identityValue : String

def isDiscoveryFatal (e : ClientError) : Bool :=
  e.isTransient || e matches .revocationCandidateUnverifiable _ ||
    e matches .revocationDiscoveryBudgetExceeded _

section Run

variable {σ : Type} (net : Network σ) (params : DiscoveryParams) (keep : KeyRevocation → Bool)

def checkCandidate (ctx : FullContext) (world : σ) : Except ClientError (Candidate × σ) :=
  if isKeylessKeyId ctx.body.signature.keyId then .ok (⟨ctx, none⟩, world)
  else match net.verifyRevocationCandidate ctx world with
    | (.ok revocation, world') => .ok (⟨ctx, some (.ok revocation)⟩, world')
    | (.error e, world') =>
      if isDiscoveryFatal e then .error e else .ok (⟨ctx, some (.error e)⟩, world')

def checkMembers : List FullContext → σ → Except ClientError (List Candidate × σ)
  | [], world => .ok ([], world)
  | ctx :: rest, world => do
    let (candidate, world') ← checkCandidate net ctx world
    let (candidates, world'') ← checkMembers rest world'
    return (candidate :: candidates, world'')

def Candidate.accepted (c : Candidate) : Option KeyRevocation :=
  match c.outcome with
  | some (.ok revocation) => some revocation
  | _ => none

def Candidate.keyless (c : Candidate) : Option FullContext :=
  if c.outcome.isNone then some c.ctx else none

def walkedOf (candidates : List Candidate) : Walked where
  verified := candidates.filterMap
    (fun c => c.accepted.map (fun revocation => (c.ctx.body.ctxId, revocation)))
  deferred := candidates.filterMap Candidate.keyless

def walkRevocationLineage (lineageId : LineageId) (expectMember : Option CtxId) (world : σ) :
    Except ClientError (List Candidate × Walked × σ) :=
  match net.lineage lineageId world with
  | (.error e, _) => .error e
  | (.ok members, world') =>
    if members = [] then .error (.incompleteLineage lineageId expectMember)
    else if expectMember.any (fun expected => !members.any (fun ctx => ctx.body.ctxId == expected)) then
      .error (.incompleteLineage lineageId expectMember)
    else do
      let (candidates, world'') ← checkMembers net members world'
      return (candidates, walkedOf candidates, world'')

def noteLineage (m : SearchResult) (s : Discovery σ) : Discovery σ :=
  if m.lineageId ∈ s.lineageOrder then s
  else { s with
    lineageOrder := s.lineageOrder ++ [m.lineageId]
    lineageExpect := s.lineageExpect ++ [(m.lineageId, m.ctxId)] }

def collect (candidate : Candidate) (s : Discovery σ) : Discovery σ :=
  match candidate.outcome with
  | none => { s with deferred := s.deferred ++ [candidate.ctx] }
  | some (.ok revocation) =>
    if keep revocation then { s with revocations := s.revocations ++ [revocation] } else s
  | some (.error _) => s

def takeMatch (s : Discovery σ) (m : SearchResult) : Except ClientError (Discovery σ) :=
  let s := noteLineage m s
  if m.ctxId ∈ s.seen then .ok s
  else match net.retrieve m.ctxId s.world with
    | (.error e, _) => .error e
    | (.ok ctx, world) => do
      let (candidate, world') ← checkCandidate net ctx world
      return collect keep candidate { s with
        world := world'
        seen := s.seen ++ [m.ctxId]
        trace := s.trace ++ [.retrieved m.ctxId candidate] }

def passes : List (String × String) :=
  ["key-revocation", "acdp:key-revocation"].flatMap (fun typeForm =>
    ["active", "superseded", "retracted"].map (fun status => (typeForm, status)))

def passParams (pass : String × String) (cursor : Option String) : SearchParams where
  q := none
  contextType := some pass.1
  domain := none
  tags := none
  agentId := some params.searchAgentId
  schemaUri := none
  derivedFrom := none
  createdAfter := none
  createdBefore := none
  dataPeriodStartAfter := none
  dataPeriodEndBefore := none
  expiresAfter := none
  expiresBefore := none
  status := some pass.2
  limit := some 100
  cursor := cursor

def readPages (pass : String × String) : ℕ → Option String → Discovery σ → Except ClientError (Discovery σ)
  | 0, _, _ =>
    .error (.searchTruncated (params.fnName ++ ": exhausted MAX_SEARCH_PAGES=" ++ toString maxSearchPages ++
      " pages for (type_form=" ++ pass.1 ++ ", status=" ++ pass.2 ++
      ") with results still remaining on the " ++
      "registry (next_cursor was still Some) — refusing to return a silently partial revocation set"))
  | n + 1, cursor, s =>
    match net.search (passParams params pass cursor) s.world with
    | (.error e, _) => .error e
    | (.ok response, world) => do
      let s' ← response.matches.foldlM (takeMatch net keep) { s with
        world := world
        trace := s.trace ++ [.searched (passParams params pass cursor) response] }
      match response.nextCursor with
      | some next => readPages pass n (some next) s'
      | none => .ok s'

def absorbDeferred (s : Discovery σ) (ctx : FullContext) : Discovery σ :=
  if ctx.body.ctxId ∈ s.seen then s
  else { s with seen := s.seen ++ [ctx.body.ctxId], deferred := s.deferred ++ [ctx] }

def absorbVerified (s : Discovery σ) (p : CtxId × KeyRevocation) : Discovery σ :=
  if p.1 ∈ s.seen then s
  else if keep p.2 then { s with seen := s.seen ++ [p.1], revocations := s.revocations ++ [p.2] }
  else { s with seen := s.seen ++ [p.1] }

def walkLineage (s : Discovery σ) (lineageId : LineageId) : Except ClientError (Discovery σ) := do
  let (candidates, walked, world) ←
    walkRevocationLineage net lineageId (s.lineageExpect.lookup lineageId) s.world
  let s' := { s with world := world, trace := s.trace ++ [.walked lineageId candidates] }
  return walked.verified.foldl (absorbVerified keep) (walked.deferred.foldl absorbDeferred s')

def readPass (s : Discovery σ) (pass : String × String) : Except ClientError (Discovery σ) :=
  readPages net params keep pass maxSearchPages none s

def Discovery.start (world : σ) : Discovery σ := ⟨world, [], [], [], [], [], []⟩

/-- `discover_revocations`, with the variables as it leaves them: the result is `revocations` and
`deferred`. -/
def discoverRevocations (world : σ) : Except ClientError (Discovery σ) := do
  let s ← passes.foldlM (readPass net params keep) (.start world)
  if s.lineageOrder.length > maxLineageWalks then
    .error (.searchTruncated (params.fnName ++ ": " ++ toString s.lineageOrder.length ++
    " candidate lineage ids for " ++ params.identityLabel ++ "=" ++ params.identityValue ++
    " exceed MAX_LINEAGE_WALKS=" ++ toString maxLineageWalks ++ " — refusing to fetch a partial set"))
  else s.lineageOrder.foldlM (walkLineage net keep) s

end Run

end Acdp.Client
