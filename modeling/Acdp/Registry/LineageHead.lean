import Acdp.Registry.LineagePublish
import Acdp.Registry.Server

namespace Acdp.Registry.Store

open Acdp.Types
open Acdp.Crypto (deriveLineageId utf8)
open Acdp.Crypto.Merkle (Digest)
open Acdp.Foundation.Transition
open Acdp.Validation (validateVersion)
open Acdp.Registry.Server (RegistryServer canRetrieve serveHead_body)

theorem isHeadStatus_superseded (state : RegistryState) (body : Body) (now : DateTime)
    (h : state.status = .superseded) : isHeadStatus (projectStatus state body now) = false := by
  rw [projectStatus, h]
  split_ifs <;> rfl

theorem isHeadStatus_active (state : RegistryState) (body : Body) (now : DateTime)
    (h : state.status = .active) :
    isHeadStatus (projectStatus state body now) = !state.isRetracted := by
  rw [projectStatus, h]
  cases hr : state.isRetracted with
  | true => rfl
  | false =>
    cases body.expiresAt with
    | none => rfl
    | some exp =>
      by_cases hexp : exp ≤ now
      · simp [hexp, isHeadStatus]
      · simp [hexp, isHeadStatus]

variable {derive : CtxId → LineageId} {s : Inner} {lineageId : LineageId} {ids : List CtxId}

theorem LineageList.exists_head (h : LineageList derive s lineageId ids) :
    ∃ init c ctx, ids = init ++ [c] ∧ s.byCtx.get? c = some ctx ∧
      ctx.registryState.status = .active ∧
      ∀ id ∈ init, ∀ old, s.byCtx.get? id = some old → old.registryState.status = .superseded := by
  obtain ⟨init, c, rfl⟩ := (List.eq_nil_or_concat' ids).resolve_left h.nonempty
  obtain ⟨ctx, hget, -, -, -, hstatus⟩ := h.stored init.length c (by simp)
  refine ⟨init, c, ctx, rfl, hget, by simpa using hstatus, ?_⟩
  intro id hid old hold
  obtain ⟨i, hi⟩ := List.mem_iff_getElem?.mp hid
  obtain ⟨hlt, -⟩ := List.getElem?_eq_some_iff.mp hi
  obtain ⟨old', hold', -, -, -, hst⟩ := h.stored i id (by rw [List.getElem?_append_left hlt, hi])
  obtain rfl : old' = old := Option.some.inj (hold'.symm.trans hold)
  rw [hst, if_pos (by simp [hlt])]

theorem current_of_head (init : List CtxId) (c : CtxId) (ctx : FullContext) (now : DateTime)
    (hids : s.lineages[lineageId]? = some (init ++ [c])) (hget : s.byCtx.get? c = some ctx)
    (hstatus : ctx.registryState.status = .active)
    (hinit : ∀ id ∈ init, ∀ old, s.byCtx.get? id = some old →
      old.registryState.status = .superseded) :
    current s lineageId now =
      if ctx.registryState.isRetracted then none else some (projectContext ctx now) := by
  have hrest : init.reverse.findSome? (fun id => ((s.byCtx.get? id).map (projectContext · now)).filter
      (isHeadStatus ·.registryState.status)) = none := by
    rw [List.findSome?_eq_none_iff]
    intro id hid
    rw [Option.filter_eq_none_iff]
    intro projected hp
    obtain ⟨old, hold, rfl⟩ := Option.map_eq_some_iff.mp hp
    have hnot := isHeadStatus_superseded _ old.body now (hinit id (List.mem_reverse.mp hid) old hold)
    simp [projectContext, hnot]
  have hhead := isHeadStatus_active ctx.registryState ctx.body now hstatus
  rw [current, hids]
  dsimp only
  rw [List.reverse_append, List.reverse_singleton, List.singleton_append, List.findSome?_cons, hget,
    Option.map_some, hrest]
  cases hr : ctx.registryState.isRetracted with
  | true =>
    rw [hr] at hhead
    simp [Option.filter, projectContext, hhead]
  | false =>
    rw [hr] at hhead
    simp [Option.filter, projectContext, hhead]

theorem lineage_reverse_of_head (init : List CtxId) (c : CtxId) (ctx : FullContext) (now : DateTime)
    (hids : s.lineages[lineageId]? = some (init ++ [c])) (hget : s.byCtx.get? c = some ctx)
    (hinit : ∀ id ∈ init, ∀ old, s.byCtx.get? id = some old →
      old.registryState.status = .superseded) :
    ∃ rest, (lineage s lineageId now).reverse = projectContext ctx now :: rest ∧
      ∀ r ∈ rest, isHeadStatus r.registryState.status = false := by
  refine ⟨(init.filterMap (fun id => (s.byCtx.get? id).map (projectContext · now))).reverse, ?_, ?_⟩
  · rw [lineage, hids]
    simp [List.filterMap_append, hget]
  · intro r hr
    obtain ⟨id, hid, hp⟩ := List.mem_filterMap.mp (List.mem_reverse.mp hr)
    obtain ⟨old, hold, rfl⟩ := Option.map_eq_some_iff.mp hp
    exact isHeadStatus_superseded _ old.body now (hinit id hid old hold)

theorem server_current_of_head (server : RegistryServer) (requester : Option AgentDid)
    (init : List CtxId) (c : CtxId) (ctx : FullContext) (now asOf : DateTime)
    (hids : s.lineages[lineageId]? = some (init ++ [c])) (hget : s.byCtx.get? c = some ctx)
    (hstatus : ctx.registryState.status = .active)
    (hinit : ∀ id ∈ init, ∀ old, s.byCtx.get? id = some old →
      old.registryState.status = .superseded) :
    server.current s lineageId requester now asOf =
      if ctx.registryState.isRetracted ∨ ¬ canRetrieve ctx.body requester server.caps then .ok none
      else (server.serveHead lineageId (projectContext ctx now) asOf).map some := by
  obtain ⟨rest, hrev, hrest⟩ := lineage_reverse_of_head init c ctx now hids hget hinit
  have hnone : rest.find? (fun r => isHeadStatus r.registryState.status &&
      canRetrieve r.body requester server.caps) = none := by
    rw [List.find?_eq_none]
    intro r hr
    simp [hrest r hr]
  have hhead : isHeadStatus (projectContext ctx now).registryState.status =
      !ctx.registryState.isRetracted := isHeadStatus_active _ _ _ hstatus
  have hbody : (projectContext ctx now).body = ctx.body := rfl
  rw [RegistryServer.current, hrev, List.find?_cons, hnone, hhead, hbody]
  cases ctx.registryState.isRetracted with
  | true => simp
  | false =>
    cases canRetrieve ctx.body requester server.caps with
    | true => simp
    | false => simp

def StoreCall.Validated : StoreCall → Prop
  | .commitPublish commit _ _ => validateVersion commit.req = .ok ()
  | .markSuperseded _ => False
  | .commitLifecycleEvent _ _ => True

def StoreCall.minted : StoreCall → Option CtxId
  | .commitPublish commit _ uuid => some (mintedCtxId commit.authority uuid)
  | .markSuperseded _ => none
  | .commitLifecycleEvent _ _ => none

theorem lineageInvariant_run (sha256 : List UInt8 → Digest) (calls : List StoreCall)
    (hcalls : ∀ call ∈ calls, call.Validated)
    (hsha : Set.InjOn (fun c => sha256 (utf8 c)) {c | ∃ call ∈ calls, call.minted = some c}) :
    LineageInvariant (deriveLineageId sha256) {c | ∃ call ∈ calls, call.minted = some c}
      (runCalls sha256 calls Inner.new) := by
  refine runState_invariant (StoreCall.apply sha256) (fun call => call ∈ calls) _ ?_ calls _
    (fun call hcall => hcall) LineageInvariant.new
  intro call s hmem h
  have hval := hcalls call hmem
  cases call with
  | commitPublish commit now uuid => exact h.commitPublish hsha commit now uuid ⟨_, hmem, rfl⟩ hval
  | markSuperseded ctxId => exact hval.elim
  | commitLifecycleEvent event now => exact h.lifecycle event now

/-- Lineages are append-only chains along every run, and only the last version is ever served as
the head. -/
theorem lineages_append_only (sha256 : List UInt8 → Digest) (calls : List StoreCall)
    (hcalls : ∀ call ∈ calls, call.Validated)
    (hsha : Set.InjOn (fun c => sha256 (utf8 c)) {c | ∃ call ∈ calls, call.minted = some c})
    (s : Inner) (hs : s = runCalls sha256 calls Inner.new) :
    (∀ (lineageId : LineageId) (ids : List CtxId), s.lineages[lineageId]? = some ids →
      LineageList (deriveLineageId sha256) s lineageId ids) ∧
    (∀ id ctx, s.byCtx.get? id = some ctx → ∃ (lineageId : LineageId) (ids : List CtxId),
      s.lineages[lineageId]? = some ids ∧ ids.count id = 1 ∧
      ∀ (l : LineageId) (ids' : List CtxId), s.lineages[l]? = some ids' → id ∈ ids' →
        l = lineageId) ∧
    (∀ (lineageId : LineageId) (ids : List CtxId), s.lineages[lineageId]? = some ids →
      ∃ c ctx, ids.getLast? = some c ∧ s.byCtx.get? c = some ctx ∧
        (∀ now, current s lineageId now =
          if ctx.registryState.isRetracted then none else some (projectContext ctx now)) ∧
        ∀ (server : RegistryServer) (requester : Option AgentDid) (now asOf : DateTime),
          (server.current s lineageId requester now asOf =
            if ctx.registryState.isRetracted ∨ ¬ canRetrieve ctx.body requester server.caps then
              .ok none
            else (server.serveHead lineageId (projectContext ctx now) asOf).map some) ∧
          ∀ served, server.current s lineageId requester now asOf = .ok (some served) →
            served.body = ctx.body) ∧
    (∀ lineageId : LineageId, s.lineages[lineageId]? = none →
      (∀ now, current s lineageId now = none) ∧
      ∀ (server : RegistryServer) (requester : Option AgentDid) (now asOf : DateTime),
        server.current s lineageId requester now asOf = .ok none) := by
  have h := lineageInvariant_run sha256 calls hcalls hsha
  rw [← hs] at h
  refine ⟨h.lists, ?_, ?_, ?_⟩
  · intro id ctx hget
    obtain ⟨ids, hids, hmem⟩ := h.indexed id ctx hget
    refine ⟨_, ids, hids, List.count_eq_one_of_mem (h.lists _ ids hids).nodup hmem, ?_⟩
    intro l ids' hids' hmem'
    obtain ⟨ctx', hget', hl⟩ := (h.lists l ids' hids').mem_stored id hmem'
    obtain rfl : ctx' = ctx := Option.some.inj (hget'.symm.trans hget)
    exact hl.symm
  · intro lineageId ids hids
    obtain ⟨init, c, ctx, rfl, hget, hstatus, hinit⟩ := (h.lists lineageId ids hids).exists_head
    refine ⟨c, ctx, by simp, hget,
      fun now => current_of_head init c ctx now hids hget hstatus hinit, ?_⟩
    intro server requester now asOf
    have hcur := server_current_of_head server requester init c ctx now asOf hids hget hstatus hinit
    refine ⟨hcur, ?_⟩
    intro served hserved
    rw [hcur] at hserved
    split_ifs at hserved
    · cases hserved
    cases hserve : server.serveHead lineageId (projectContext ctx now) asOf with
    | error e =>
      rw [hserve] at hserved
      cases hserved
    | ok ctx' =>
      rw [hserve] at hserved
      obtain rfl := Option.some.inj (Except.ok.inj hserved)
      exact serveHead_body server lineageId (projectContext ctx now) ctx' asOf hserve
  · intro lineageId hnone
    refine ⟨fun now => by rw [current, hnone], ?_⟩
    intro server requester now asOf
    rw [RegistryServer.current, lineage, hnone]
    rfl

def sampleRequest (version : UInt32) (supersedes : Option CtxId) (contentHash : ContentHash) :
    PublishRequest where
  version := version
  supersedes := supersedes
  agentId := "did:web:agents.example.com:alice"
  contributors := []
  title := "Weekly summary"
  contextType := .analysis
  dataRefs := []
  derivedFrom := []
  visibility := .public
  contentHash := contentHash
  signature := ⟨"ed25519", "did:web:agents.example.com:alice#key-1", ""⟩
  audience := none
  acdpVersion := none
  description := none
  summary := none
  lineageId := none
  tags := none
  domain := none
  expiresAt := none
  dataPeriod := none
  metadata := none
  schemaUri := none
  anchors := none
  keyAttestation := none

def sampleCommit (req : PublishRequest) (idempotency : Option PendingIdempotencyCommit) :
    PublishCommit where
  req := req
  authority := "registry.example.com"
  idempotency := idempotency
  tenant := none
  receiptMinter := none
  predecessorAdmission := none

instance sampleSeconds_neZero : NeZero 100 := ⟨by decide⟩

def sampleInstant (seconds : Fin 100) : DateTime where
  nanos := 1790000000000000000 + seconds.val * 1000000000
  lower := by omega
  upper := by omega

def sampleUuid1 : String := "11111111-1111-4111-8111-111111111111"

def sampleUuid2 : String := "22222222-2222-4222-8222-222222222222"

def sampleCtx1 : CtxId := mintedCtxId "registry.example.com" sampleUuid1

def sampleCtx2 : CtxId := mintedCtxId "registry.example.com" sampleUuid2

def sampleSha256 (bytes : List UInt8) : Digest :=
  if bytes = utf8 sampleCtx1 then
    #v[76, 99, 57, 68, 24, 178, 231, 132, 174, 246, 143, 90, 9, 21, 53, 197,
      87, 69, 60, 33, 35, 31, 89, 5, 242, 26, 56, 192, 41, 19, 205, 134]
  else
    #v[118, 52, 161, 133, 85, 52, 154, 249, 181, 250, 225, 59, 19, 253, 251, 80,
      121, 150, 240, 234, 99, 94, 190, 222, 81, 96, 76, 23, 174, 216, 241, 139]

def sampleCalls : List StoreCall :=
  [.commitPublish (sampleCommit (sampleRequest 1 none "sha256:01") none) (sampleInstant 0) sampleUuid1,
    .commitPublish (sampleCommit (sampleRequest 2 (some sampleCtx1) "sha256:02") none) (sampleInstant 1)
      sampleUuid2]

theorem sampleSha256_injOn :
    Set.InjOn (fun c => sampleSha256 (utf8 c)) {c | ∃ call ∈ sampleCalls, call.minted = some c} := by
  have hmem : {c | ∃ call ∈ sampleCalls, call.minted = some c} ⊆ {sampleCtx1, sampleCtx2} := by
    rintro c ⟨call, hcall, hc⟩
    simp only [sampleCalls, List.mem_cons, List.not_mem_nil, or_false] at hcall
    rcases hcall with rfl | rfl
    · exact .inl (Option.some.inj hc).symm
    · exact .inr (Option.some.inj hc).symm
  have hne : sampleSha256 (utf8 sampleCtx1) ≠ sampleSha256 (utf8 sampleCtx2) := by decide +kernel
  have hpair : Set.InjOn (fun c => sampleSha256 (utf8 c)) {sampleCtx1, sampleCtx2} :=
    Set.injOn_pair.mpr (fun heq => absurd heq hne)
  exact hpair.mono hmem

theorem lineages_append_only_sample :
    LineageList (deriveLineageId sampleSha256) (runCalls sampleSha256 sampleCalls Inner.new)
      (deriveLineageId sampleSha256 sampleCtx1) [sampleCtx1, sampleCtx2] := by
  refine (lineages_append_only sampleSha256 sampleCalls ?_ sampleSha256_injOn _ rfl).1 _ _
    (by decide +kernel)
  intro call hcall
  simp only [sampleCalls, List.mem_cons, List.not_mem_nil, or_false] at hcall
  rcases hcall with rfl | rfl
  · rfl
  · rfl

end Acdp.Registry.Store
