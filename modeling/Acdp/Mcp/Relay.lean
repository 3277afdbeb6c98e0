import Acdp.Foundation.Transition
import Acdp.Mcp.Record
import Mathlib.Data.List.Induction

namespace Acdp.Mcp

open Acdp.Types
open Acdp.Foundation.Transition (runState runState_append)

def protocolVersionMeta : String := "io.modelcontextprotocol/protocolVersion"
def serverInfoMeta : String := "io.modelcontextprotocol/serverInfo"

structure PendingCall where
  tool : String
  arguments : Json
  id : Json
  startedAt : DateTime
  protocolVersion : Option String
deriving DecidableEq

inductive Pending where
  | initializeRequest
  | discover
  | call (c : PendingCall)

structure Reported where
  name : String
  version : Option String
deriving DecidableEq, Repr

/-- The relay's state; `discovered` has the instant at which it expires. -/
structure State where
  pending : String → Option Pending
  server : Option ServerIdentity
  discovered : Option (Reported × ℕ)

def State.start : State := ⟨fun _ => none, none, none⟩

inductive Message where
  | fromClient (m : Json) (now : DateTime)
  | fromServer (m : Json) (completedAt : DateTime) (instant : ℕ)

def callOf (m id : Json) (now : DateTime) : Option PendingCall := do
  let tool ← ((m.get "params").bind (·.get "name")).bind Json.asStr
  return {
    tool := tool
    arguments := ((m.get "params").bind (·.get "arguments")).getD (.obj [])
    id := id
    startedAt := now
    protocolVersion := (((m.get "params").bind (·.get "_meta")).bind (·.get protocolVersionMeta)).map
      (fun v => v.asStr.getD "unknown") }

def pendingOf (m id : Json) (method : String) (now : DateTime) : Option Pending :=
  if method = "initialize" then some .initializeRequest
  else if method = "server/discover" then some .discover
  else if method = "tools/call" then (callOf m id now).map .call
  else none

section Relay

variable (idKey : Json → String)

def noteRequest (m : Json) (now : DateTime) (s : State) : State :=
  match (m.get "method").bind Json.asStr, m.get "id" with
  | some method, some id =>
    match pendingOf m id method now with
    | some pending => { s with pending := Function.update s.pending (idKey id) (some pending) }
    | none => s
  | _, _ => s

def reported (info : Option Json) : Option Reported := do
  let info ← (← info).asObject
  let name ← (info.lookup "name").bind Json.asStr
  return ⟨name, (info.lookup "version").bind Json.asStr⟩

def identity (reported : Option Reported) (protocolVersion : String) : ServerIdentity :=
  let reported := reported.getD ⟨"unknown", none⟩
  ⟨reported.name, reported.version, protocolVersion, .stdio, ""⟩

def isComplete (result : List (String × Json)) : Bool :=
  match result.lookup "resultType" with
  | none => true
  | some v => v.asStr == some "complete"

def asU64 : Json → Option UInt64
  | .num (.posInt n) => some n
  | _ => none

def metaServerInfo (result : List (String × Json)) : Option Json :=
  (result.lookup "_meta").bind (·.get serverInfoMeta)

def serverFor (s : State) (call : PendingCall) (result : List (String × Json)) (instant : ℕ) :
    Option ServerIdentity :=
  match call.protocolVersion with
  | some version =>
    let fromDiscover := (s.discovered.filter (fun d => instant < d.2)).map Prod.fst
    some (identity ((reported (metaServerInfo result)).or fromDiscover) version)
  | none => s.server

def discoveredBy (result : List (String × Json)) (instant : ℕ) : Option (Reported × ℕ) := do
  let found ← reported ((result.lookup serverInfoMeta).or (metaServerInfo result))
  let ttl ← (result.lookup "ttlMs").bind asU64
  return (found, instant + ttl.toNat * 1000000)

def completedCall (call : PendingCall) (result : List (String × Json)) (completedAt : DateTime) :
    ToolCall where
  tool := call.tool
  arguments := call.arguments
  requestId := some call.id
  result := result
  startedAt := call.startedAt
  completedAt := completedAt

def settle (pending : Pending) (result : List (String × Json)) (completedAt : DateTime)
    (instant : ℕ) (s : State) : Option (ToolCall × Option ServerIdentity) × State :=
  match pending with
  | .initializeRequest =>
    (none, { s with server := some (identity (reported (result.lookup "serverInfo"))
      (((result.lookup "protocolVersion").bind Json.asStr).getD "unknown")) })
  | .discover => (none, { s with discovered := (discoveredBy result instant).or s.discovered })
  | .call call =>
    if isComplete result then
      (some (completedCall call result completedAt, serverFor s call result instant), s)
    else (none, s)

def noteResponse (m : Json) (completedAt : DateTime) (instant : ℕ) (s : State) :
    Option (ToolCall × Option ServerIdentity) × State :=
  if (m.get "method").isSome then (none, s)
  else match m.get "id" with
    | none => (none, s)
    | some id =>
      match s.pending (idKey id) with
      | none => (none, s)
      | some pending =>
        let s' := { s with pending := Function.update s.pending (idKey id) none }
        match (m.get "result").bind Json.asObject with
        | none => (none, s')
        | some result => settle pending result completedAt instant s'

def step (message : Message) (s : State) : Option (ToolCall × Option ServerIdentity) × State :=
  match message with
  | .fromClient m now => (none, noteRequest idKey m now s)
  | .fromServer m completedAt instant => noteResponse idKey m completedAt instant s

def relay (messages : List Message) : State := runState (step idKey) messages .start

def SentBy (messages : List Message) (call : PendingCall) : Prop :=
  ∃ m now, .fromClient m now ∈ messages ∧ (m.get "method").bind Json.asStr = some "tools/call" ∧
    m.get "id" = some call.id ∧ callOf m call.id now = some call

theorem pendingOf_call (m id : Json) (method : String) (now : DateTime) (call : PendingCall)
    (h : pendingOf m id method now = some (.call call)) : method = "tools/call" ∧
      callOf m id now = some call := by
  rw [pendingOf] at h
  split at h
  · cases h
  split at h
  · cases h
  split at h
  next hmethod =>
    obtain ⟨c, hc, hcall⟩ := Option.map_eq_some_iff.mp h
    obtain rfl := Pending.call.inj hcall
    exact ⟨hmethod, hc⟩
  next => cases h

theorem callOf_id (m id : Json) (now : DateTime) (call : PendingCall) (h : callOf m id now = some call) :
    call.id = id := by
  obtain ⟨tool, -, h⟩ := Option.bind_eq_some_iff.mp h
  obtain rfl := Option.some.inj h
  rfl

theorem noteRequest_pending (m : Json) (now : DateTime) (s : State) (key : String) (call : PendingCall)
    (h : (noteRequest idKey m now s).pending key = some (.call call)) :
    s.pending key = some (.call call) ∨
      (idKey call.id = key ∧ (m.get "method").bind Json.asStr = some "tools/call" ∧
      m.get "id" = some call.id ∧ callOf m call.id now = some call) := by
  rw [noteRequest] at h
  split at h
  next method id hmethod hid =>
    split at h
    next pending hpending =>
      dsimp only at h
      by_cases hkey : key = idKey id
      · rw [hkey, Function.update_self] at h
        obtain rfl := Option.some.inj h
        obtain ⟨rfl, hcall⟩ := pendingOf_call m id method now call hpending
        have hsame := callOf_id m id now call hcall
        exact .inr ⟨by rw [hsame, hkey], hmethod, by rw [hsame, hid], by rw [hsame, hcall]⟩
      · exact .inl (by rwa [Function.update_of_ne hkey] at h)
    next => exact .inl h
  next => exact .inl h

theorem settle_pending (pending : Pending) (result : List (String × Json))
    (completedAt : DateTime) (instant : ℕ) (s : State) :
    (settle pending result completedAt instant s).2.pending = s.pending := by
  unfold settle
  split
  · rfl
  · rfl
  · split <;> rfl

theorem noteResponse_pending (m : Json) (completedAt : DateTime) (instant : ℕ) (s : State) (key : String)
    (p : Pending) (h : (noteResponse idKey m completedAt instant s).2.pending key = some p) :
    s.pending key = some p := by
  have hupdate (id : Json) (h : Function.update s.pending (idKey id) none key = some p) :
      s.pending key = some p := by
    by_cases hkey : key = idKey id
    · rw [hkey, Function.update_self] at h
      cases h
    · rwa [Function.update_of_ne hkey] at h
  rw [noteResponse] at h
  split at h
  · exact h
  split at h
  · exact h
  next id _ =>
    split at h
    · exact h
    next pending _ =>
      dsimp only at h
      split at h
      · exact hupdate id h
      · rw [settle_pending] at h
        exact hupdate id h

theorem relay_pending (messages : List Message) (key : String) (call : PendingCall)
    (h : (relay idKey messages).pending key = some (.call call)) : idKey call.id = key ∧
      SentBy messages call := by
  induction messages using List.reverseRecOn with
  | nil => cases h
  | append_singleton messages message ih =>
    have hmono : SentBy messages call → SentBy (messages ++ [message]) call := by
      rintro ⟨m, now, hm, hcall⟩
      exact ⟨m, now, List.mem_append_left _ hm, hcall⟩
    rw [relay, runState_append] at h
    change (step idKey message (relay idKey messages)).2.pending key = _ at h
    cases message with
    | fromClient m now =>
      rcases noteRequest_pending idKey m now _ key call h with h | hcall
      · exact (ih h).imp_right hmono
      · exact ⟨hcall.1, m, now, List.mem_append_right _ (List.mem_singleton.mpr rfl), hcall.2⟩
    | fromServer m completedAt instant =>
      exact (ih (noteResponse_pending idKey m completedAt instant _ key _ h)).imp_right hmono

theorem noteResponse_yields (messages : List Message) (m : Json) (completedAt : DateTime) (instant : ℕ)
    (call : ToolCall) (server : Option ServerIdentity)
    (h : (noteResponse idKey m completedAt instant (relay idKey messages)).1 = some (call, server)) :
    ∃ sent result, SentBy messages sent ∧ (m.get "id").map idKey = some (idKey sent.id) ∧
      (m.get "result").bind Json.asObject = some result ∧ call = completedCall sent result completedAt := by
  rw [noteResponse] at h
  split at h
  · cases h
  split at h
  · cases h
  next id hid =>
    split at h
    · cases h
    next pending hpending =>
      dsimp only at h
      split at h
      · cases h
      next result hresult =>
        unfold settle at h
        split at h
        · cases h
        · cases h
        next sent =>
          split at h
          · obtain ⟨rfl, -⟩ := Prod.mk.inj (Option.some.inj h)
            obtain ⟨hkey, hsent⟩ := relay_pending idKey messages (idKey id) sent hpending
            exact ⟨sent, result, hsent, by rw [hid, hkey, Option.map_some], hresult, rfl⟩
          · cases h

end Relay

end Acdp.Mcp
