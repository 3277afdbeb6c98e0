import Acdp.Did.Document
import Acdp.Foundation.Lru

namespace Acdp.Did

open Acdp.Types
open Acdp.Foundation (Lru)

def maxMetadataBytes : ℕ := 65536

structure ReqwestError where
  chain : String
  ssrfRefusal : Bool
  timeout : Bool
  connect : Bool
deriving DecidableEq, Repr

structure HttpResponse where
  success : Bool
  status : String
  contentType : Option String
  contentLength : Option ℕ
  chunks : List (Except String (List UInt8))

/-- What the resolver takes from other crates: percent decoding, the URL check of its policy, and the JSON
parser. -/
structure WebEnv where
  urlDecode : String → Except String String
  checkUrl : String → Except String Unit
  parseDocument : List UInt8 → Except String DidDocument

def classifyReqwestError (e : ReqwestError) : AcdpError :=
  if e.ssrfRefusal then .keyResolution e.chain
  else if e.timeout ∨ e.connect then .keyResolutionUnreachable e.chain
  else .keyResolution e.chain

def didWebToUrl (env : WebEnv) (did : String) : Except AcdpError String :=
  match Text.stripPrefix "did:web:" did with
  | none => .error (.keyResolution s!"not a did:web DID: {did}")
  | some rest =>
    let parts := Text.split ':' rest
    match env.urlDecode (parts.headD "") with
    | .error e => .error (.keyResolution s!"authority decode: {e}")
    | .ok authority =>
      if parts.length = 1 then .ok s!"https://{authority}/.well-known/did.json"
      else .ok ("https://" ++ authority ++ "/" ++ "/".intercalate parts.tail ++ "/did.json")

/-- The part of `fetch_and_store` before the request. -/
def admitFetch (env : WebEnv) (did : String) : Except AcdpError String := do
  let url ← didWebToUrl env did
  match env.checkUrl url with
  | .ok () => .ok url
  | .error e => .error (.keyResolution s!"SSRF policy blocked did:web resolution: {e}")

def asciiLower (s : String) : String :=
  String.ofList (s.toList.map (fun c => if Text.isAsciiUppercase c then Char.ofNat (c.toNat + 32) else c))

def checkDidDocumentContentType (header : Option String) : Except AcdpError Unit :=
  let essence := (header.map (fun v => asciiLower (Text.trim (Text.beforeChar ';' v)))).getD ""
  if essence = "application/did+json" ∨ essence = "application/json" then .ok ()
  else .error (.keyResolution (match header with
    | some v => "DID document fetch returned Content-Type '" ++ v ++
        "'; expected application/did+json or application/json"
    | none =>
      "DID document fetch returned no (or a non-UTF-8) Content-Type; expected application/did+json or " ++
        "application/json"))

def readChunks (buf : List UInt8) : List (Except String (List UInt8)) → Except AcdpError (List UInt8)
  | [] => .ok buf
  | .error e :: _ => .error (.keyResolutionUnreachable e)
  | .ok chunk :: rest =>
    if maxMetadataBytes < buf.length + chunk.length then
      .error (.keyResolution s!"DID document body exceeded {maxMetadataBytes}-byte cap")
    else readChunks (buf ++ chunk) rest

/-- The part of `fetch_and_store` from the response to the parsed document. -/
def readResponse (env : WebEnv) (answer : Except ReqwestError HttpResponse) : Except AcdpError DidDocument :=
  match answer with
  | .error e => .error (classifyReqwestError e)
  | .ok resp =>
    if resp.success = false then
      .error (.keyResolutionUnreachable s!"DID document fetch returned HTTP {resp.status}")
    else do
      checkDidDocumentContentType resp.contentType
      match resp.contentLength with
      | some len =>
        if maxMetadataBytes < len then
          .error (.keyResolution s!"DID document Content-Length {len} exceeds {maxMetadataBytes}-byte cap")
        else .ok ()
      | none => .ok ()
      let buf ← readChunks [] resp.chunks
      match env.parseDocument buf with
      | .ok doc => .ok doc
      | .error e => .error (.keyResolution s!"DID document parse: {e}")

structure ServedDocument where
  document : DidDocument
  servedAt : ℕ
deriving DecidableEq

structure CacheEntry where
  served : ServedDocument
  cachedAt : ℕ
deriving DecidableEq

structure ResolvedDidDocument where
  served : ServedDocument
  fetchedAt : ℕ
deriving DecidableEq

structure FreshResolution where
  served : ServedDocument
  fresh : Bool
deriving DecidableEq

structure WebResolver where
  env : WebEnv
  cacheMax : ℕ
  forcedRefreshInterval : ℕ
  intervalText : String

def refusedForced (resolver : WebResolver) (did : String) : AcdpError :=
  .keyResolutionUnreachable
    s!"forced re-fetch of {did} refused by the per-DID rate limit ({resolver.intervalText})"

def absentFragment (did fragment : String) (fresh : Bool) : AcdpError :=
  if fresh then .keyResolution ("no verification method with fragment '#" ++ fragment ++ "' in " ++ did ++
    " (checked against a freshly fetched DID document)")
  else .keyResolutionUnreachable ("no verification method with fragment '#" ++ fragment ++
    "' in the cached DID document for " ++ did ++
    ", and the forced re-fetch was refused by the per-DID rate limit — absence is not proven")

inductive Call where
  | resolve (did : String)
  | resolveFresh (did : String)
  | resolveUntil (did : String) (since : ℕ) (accept : DidDocument → Bool)
  | resolveWithFragment (did fragment : String) (since : ℕ)
  | invalidate (did : String)

namespace Call

def did : Call → String
  | .resolve did => did
  | .resolveFresh did => did
  | .resolveUntil did _ _ => did
  | .resolveWithFragment did _ _ => did
  | .invalidate did => did

def untilArgs : Call → Option (ℕ × (DidDocument → Bool))
  | .resolveUntil _ since accept => some (since, accept)
  | .resolveWithFragment _ fragment since => some (since, fun doc => (doc.findByFragment fragment).isSome)
  | _ => none

end Call

inductive Outcome where
  | document (served : ServedDocument)
  | fresh (resolution : FreshResolution)
  | failed (e : AcdpError)
  | absent (e : AcdpError) (checked : ServedDocument)
  | invalidated
deriving DecidableEq

/-- Where a task stands between two points at which other tasks may run. -/
inductive Phase where
  | checking
  | rechecking (first : ResolvedDidDocument)
  | claiming (first : Option ResolvedDidDocument)
  | requesting (forced : Bool)
  | waiting (forced : Bool)
  | answered (forced : Bool) (served : ServedDocument)
  | storing (forced : Bool) (resolved : ResolvedDidDocument)
  | dropping
  | done (outcome : Outcome)
deriving DecidableEq

def Call.start : Call → Phase
  | .resolve _ => .checking
  | .resolveFresh _ => .claiming none
  | .resolveUntil _ _ _ => .checking
  | .resolveWithFragment _ _ _ => .checking
  | .invalidate _ => .dropping

def Call.conclude (call : Call) (resolution : FreshResolution) : Outcome :=
  match call with
  | .resolveWithFragment did fragment _ =>
    if (resolution.served.document.findByFragment fragment).isSome then .document resolution.served
    else .absent (absentFragment did fragment resolution.fresh) resolution.served
  | _ => .fresh resolution

def Call.afterTracked (call : Call) (first : ResolvedDidDocument) : Phase :=
  match call.untilArgs with
  | none => .done (.document first.served)
  | some (since, accept) =>
    if accept first.served.document ∨ since ≤ first.fetchedAt then
      .done (call.conclude ⟨first.served, since ≤ first.fetchedAt⟩)
    else .rechecking first

def Call.afterForced (call : Call) (resolved : ResolvedDidDocument) : Phase :=
  match call.untilArgs with
  | none => .done (.document resolved.served)
  | some _ => .done (call.conclude ⟨resolved.served, true⟩)

structure Task where
  call : Call
  phase : Phase

structure HostAnswer where
  did : String
  served : ServedDocument
deriving DecidableEq

structure ResolverState where
  clock : ℕ
  cache : Lru String CacheEntry
  forced : Lru String ℕ
  tasks : ℕ → Option Task
  answers : List HostAnswer

def ResolverState.initial (capacity : ℕ) : ResolverState where
  clock := 0
  cache := Lru.empty capacity
  forced := Lru.empty capacity
  tasks := fun _ => none
  answers := []

def ResolverState.setPhase (s : ResolverState) (id : ℕ) (call : Call) (phase : Phase) : ResolverState :=
  { s with tasks := Function.update s.tasks id (some ⟨call, phase⟩) }

def tryClaimForced (resolver : WebResolver) (s : ResolverState) (did : String) : Bool × ResolverState :=
  let touched := s.forced.promote did
  if (s.forced.peek did).any (fun last => s.clock - last < resolver.forcedRefreshInterval) then
    (false, { s with forced := touched })
  else (true, { s with forced := touched.put did s.clock })

inductive Event where
  | tick
  | start (id : ℕ) (call : Call)
  | advance (id : ℕ)
  | answer (id : ℕ) (response : Except ReqwestError HttpResponse)

/-- One uninterrupted stretch of a task. -/
def advance (resolver : WebResolver) (s : ResolverState) (id : ℕ) (task : Task) : ResolverState :=
  let call := task.call
  match task.phase with
  | .checking =>
    let touched := { s with cache := s.cache.promote call.did }
    match s.cache.peek call.did with
    | some entry =>
      if s.clock - entry.cachedAt < resolver.cacheMax then
        touched.setPhase id call (call.afterTracked ⟨entry.served, entry.cachedAt⟩)
      else touched.setPhase id call (.requesting false)
    | none => touched.setPhase id call (.requesting false)
  | .rechecking first =>
    let touched := { s with cache := s.cache.promote call.did }
    match call.untilArgs, s.cache.peek call.did with
    | some (since, _), some entry =>
      if since ≤ entry.cachedAt ∧ first.fetchedAt < entry.cachedAt then
        touched.setPhase id call (.done (call.conclude ⟨entry.served, true⟩))
      else touched.setPhase id call (.claiming (some first))
    | _, _ => touched.setPhase id call (.claiming (some first))
  | .claiming first =>
    let (granted, claimed) := tryClaimForced resolver s call.did
    if granted then claimed.setPhase id call (.requesting true)
    else match first with
      | none => claimed.setPhase id call (.done (.failed (refusedForced resolver call.did)))
      | some first => claimed.setPhase id call (.done (call.conclude ⟨first.served, false⟩))
  | .requesting forced =>
    match admitFetch resolver.env call.did with
    | .ok _ => s.setPhase id call (.waiting forced)
    | .error e => s.setPhase id call (.done (.failed e))
  | .answered forced served => s.setPhase id call (.storing forced ⟨served, s.clock⟩)
  | .storing forced resolved =>
    let stored := { s with cache := s.cache.put call.did ⟨resolved.served, resolved.fetchedAt⟩ }
    stored.setPhase id call (if forced then call.afterForced resolved else call.afterTracked resolved)
  | .dropping =>
    let dropped := { s with cache := s.cache.pop call.did }
    dropped.setPhase id call (.done .invalidated)
  | .waiting _ => s
  | .done _ => s

def step (resolver : WebResolver) (event : Event) (s : ResolverState) : ResolverState :=
  match event with
  | .tick => { s with clock := s.clock + 1 }
  | .start id call =>
    match s.tasks id with
    | none => s.setPhase id call call.start
    | some _ => s
  | .advance id =>
    match s.tasks id with
    | some task => advance resolver s id task
    | none => s
  | .answer id response =>
    match s.tasks id with
    | some ⟨call, .waiting forced⟩ =>
      match readResponse resolver.env response with
      | .error e => s.setPhase id call (.done (.failed e))
      | .ok doc =>
        let served : ServedDocument := ⟨doc, s.clock⟩
        let logged : ResolverState := { s with answers := s.answers ++ [⟨call.did, served⟩] }
        logged.setPhase id call (.answered forced served)
    | _ => s

def run (resolver : WebResolver) (s : ResolverState) (events : List Event) : ResolverState :=
  events.foldl (fun s event => step resolver event s) s

end Acdp.Did
