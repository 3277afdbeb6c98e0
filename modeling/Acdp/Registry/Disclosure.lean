import Acdp.Registry.Server
import Acdp.Registry.SearchPages
import Acdp.Foundation.Entries

namespace Acdp.Registry.Server

open Acdp.Types
open Acdp.Foundation.Entries
open Acdp.Registry.Store (Inner projectContext projectStatus)
open Acdp.Registry.Search (SearchParams SearchEnv SearchResponse canSurfaceInSearch searchResult)

def RegistryServer.retrieve (server : RegistryServer) (s : Inner) (ctxId : CtxId)
    (requester : Option AgentDid) (now : DateTime) : Except AcdpError (Option FullContext) :=
  match Store.get s ctxId now with
  | none => .ok none
  | some ctx => if ¬ canRetrieve ctx.body requester server.caps then .ok none else .ok (some ctx)

def RegistryServer.retrieveBody (server : RegistryServer) (s : Inner) (ctxId : CtxId)
    (requester : Option AgentDid) (now : DateTime) : Except AcdpError (Option Body) :=
  (server.retrieve s ctxId requester now).map (·.map (·.body))

def RegistryServer.lineage (server : RegistryServer) (s : Inner) (lineageId : LineageId)
    (requester : Option AgentDid) (now : DateTime) : Except AcdpError (List FullContext) :=
  .ok ((Store.lineage s lineageId now).filter (fun ctx => canRetrieve ctx.body requester server.caps))

def RegistryServer.search (server : RegistryServer) (env : SearchEnv) (s : Inner) (params : SearchParams)
    (requester : Option AgentDid) (now : DateTime) : Except AcdpError SearchResponse :=
  if requester.isNone ∧ ¬ server.caps.anonymousPublicReads then
    .error (.notAuthorized ("anonymous search requires authentication " ++
      "(registry caps: anonymous_public_reads=false)"))
  else Search.search env s params requester server.caps.anonymousPublicReads now

section Agreement

variable (caps : Capabilities) (requester : Option AgentDid)

def visible (s : Inner) (id : CtxId) : Option FullContext :=
  (s.byCtx.get? id).filter (fun ctx => canRetrieve ctx.body requester caps)

def visibleVersions (s : Inner) (lineageId : LineageId) : List FullContext :=
  ((s.lineages[lineageId]?).getD []).filterMap (visible caps requester s)

structure Agree (s s' : Inner) : Prop where
  contexts : ∀ id, visible caps requester s id = visible caps requester s' id
  lineages : ∀ lineageId, visibleVersions caps requester s lineageId =
    visibleVersions caps requester s' lineageId

end Agreement

variable (server : RegistryServer) (requester : Option AgentDid)

theorem retrieve_eq (s : Inner) (ctxId : CtxId) (now : DateTime) :
    server.retrieve s ctxId requester now =
      .ok ((visible server.caps requester s ctxId).map (projectContext · now)) := by
  rw [RegistryServer.retrieve, Store.get, visible]
  cases s.byCtx.get? ctxId with
  | none => rfl
  | some ctx =>
    by_cases h : canRetrieve ctx.body requester server.caps = true <;> simp [projectContext, h]

theorem lineage_filter_eq (s : Inner) (lineageId : LineageId) (now : DateTime) :
    (Store.lineage s lineageId now).filter (fun ctx => canRetrieve ctx.body requester server.caps) =
      (visibleVersions server.caps requester s lineageId).map (projectContext · now) := by
  rw [Store.lineage, visibleVersions]
  cases s.lineages[lineageId]? with
  | none => rfl
  | some ids =>
    simp only [Option.getD_some, List.filter_filterMap, List.map_filterMap]
    apply List.filterMap_congr
    intro id _
    rw [visible]
    cases s.byCtx.get? id with
    | none => rfl
    | some ctx =>
      by_cases h : canRetrieve ctx.body requester server.caps = true
      · simp [Option.filter, projectContext, h]
      · simp [Option.filter, projectContext, h]

theorem current_eq (s : Inner) (lineageId : LineageId) (now asOf : DateTime) :
    server.current s lineageId requester now asOf =
      match ((visibleVersions server.caps requester s lineageId).map (projectContext · now)).reverse.find?
        (fun ctx => Store.isHeadStatus ctx.registryState.status) with
      | none => .ok none
      | some ctx => (server.serveHead lineageId ctx asOf).map some := by
  have hfind : (Store.lineage s lineageId now).reverse.find? (fun ctx =>
      Store.isHeadStatus ctx.registryState.status && canRetrieve ctx.body requester server.caps) =
      ((visibleVersions server.caps requester s lineageId).map (projectContext · now)).reverse.find?
        (fun ctx => Store.isHeadStatus ctx.registryState.status) := by
    rw [← lineage_filter_eq, ← List.filter_reverse, List.find?_filter]
    congr 1
    funext ctx
    rw [Bool.decide_and, Bool.decide_eq_true, Bool.decide_eq_true, Bool.and_comm]
  cases hhead : ((visibleVersions server.caps requester s lineageId).map
      (projectContext · now)).reverse.find? (fun ctx => Store.isHeadStatus ctx.registryState.status) with
  | none => rw [RegistryServer.current, hfind, hhead]
  | some ctx => rw [RegistryServer.current, hfind, hhead]

theorem canRetrieve_of_canSurfaceInSearch (body : Body) (caps : Capabilities)
    (h : canSurfaceInSearch body requester caps.anonymousPublicReads = true) :
    canRetrieve body requester caps = true := by
  unfold canSurfaceInSearch at h
  unfold canRetrieve
  cases hvis : body.visibility with
  | «public» =>
    rw [hvis] at h
    exact h
  | restricted =>
    rw [hvis] at h
    exact h
  | «private» =>
    rw [hvis] at h
    obtain rfl := eq_of_beq h
    simp

theorem canRetrieve_of_matchesParams (env : SearchEnv) (params : SearchParams) (dates : Search.DateFilters)
    (now : DateTime) (ctx : FullContext)
    (h : Search.matchesParams env params dates requester server.caps.anonymousPublicReads now ctx = true) :
    canRetrieve ctx.body requester server.caps = true := by
  simp only [Search.matchesParams, Bool.and_eq_true] at h
  exact canRetrieve_of_canSurfaceInSearch requester ctx.body server.caps (by tauto)

theorem values_filter_eq (s s' : Inner) (h : Agree server.caps requester s s') (p : FullContext → Bool)
    (hp : ∀ ctx, p ctx = true → canRetrieve ctx.body requester server.caps = true) :
    s.byCtx.values.filter p = s'.byCtx.values.filter p := by
  have hfilter : ∀ t : Inner, t.byCtx.values.filter p =
      t.byCtx.entries.toList.filterMap (fun entry => if p entry.2 then some entry.2 else none) := by
    intro t
    rw [Store.ContextTable.values, ← List.filterMap_eq_filter, List.filterMap_map]
    apply List.filterMap_congr
    intro entry _
    simp [Option.guard]
  have hbind : ∀ (t : Inner) (id : CtxId),
    (t.byCtx.get? id).bind (fun ctx => if p ctx then some ctx else none) =
      (visible server.caps requester t id).bind (fun ctx => if p ctx then some ctx else none) := by
    intro t id
    rw [visible]
    cases t.byCtx.get? id with
    | none => rfl
    | some ctx =>
      by_cases hctx : p ctx = true
      · simp [Option.filter, hctx, hp ctx hctx]
      · by_cases hret : canRetrieve ctx.body requester server.caps = true <;> simp [Option.filter, hctx, hret]
  rw [hfilter, hfilter]
  apply filterMap_toList_congr (fun _ ctx => if p ctx then some ctx else none)
    (fun _ ctx => if p ctx then some ctx else none)
  intro id
  have hs := hbind s id
  rw [h.contexts id, ← hbind s' id] at hs
  exact hs

theorem search_eq (s s' : Inner) (h : Agree server.caps requester s s') (env : SearchEnv)
    (params : SearchParams) (now : DateTime) : server.search env s params requester now =
      server.search env s' params requester now := by
  have hsorted : Search.sortedMatches env s params requester server.caps.anonymousPublicReads now =
      Search.sortedMatches env s' params requester server.caps.anonymousPublicReads now := by
    rw [Search.sortedMatches, Search.sortedMatches]
    congr 1
    funext dates
    rw [values_filter_eq server requester s s' h _ (fun ctx hctx =>
      canRetrieve_of_matchesParams server requester env params dates now ctx hctx)]
  rw [RegistryServer.search, RegistryServer.search, Search.search, Search.search, hsorted]

theorem projectStatus_projectStatus (state : RegistryState) (body : Body) (now : DateTime) :
    projectStatus { state with status := projectStatus state body now } body now =
      projectStatus state body now := by
  have hretracted : RegistryState.isRetracted { state with status := projectStatus state body now } =
      state.isRetracted := rfl
  rw [projectStatus, hretracted]
  unfold projectStatus
  by_cases hret : state.isRetracted = true
  · simp [hret]
  · cases state.status <;> cases body.expiresAt <;> simp [hret]
    split <;> simp_all

theorem searchResult_projectContext (ctx : FullContext) (now : DateTime) :
    searchResult now (projectContext ctx now) = searchResult now ctx := by
  simp only [searchResult, projectContext, projectStatus_projectStatus]

theorem mem_matches_search (env : SearchEnv) (s : Inner) (params : SearchParams) (anonymousPublicReads : Bool)
    (now : DateTime) (response : SearchResponse) (result : Search.SearchResult)
    (h : Search.search env s params requester anonymousPublicReads now = .ok response)
    (hresult : result ∈ response.matches) :
    ∃ dates ctx, ctx ∈ s.byCtx.values ∧
      Search.matchesParams env params dates requester anonymousPublicReads now ctx = true ∧
      result = searchResult now ctx := by
  obtain ⟨found, hfound, hpage⟩ := bind_ok _ _ _ h
  obtain ⟨dates, -, hsorted⟩ := bind_ok _ _ _ hfound
  obtain ⟨anchor, -, hresponse⟩ := bind_ok _ _ _ hpage
  obtain rfl := Except.ok.inj hsorted
  obtain rfl := Except.ok.inj hresponse
  obtain ⟨ctx, hctx, rfl⟩ := List.mem_map.mp hresult
  replace hctx := List.mem_of_mem_take hctx
  have hmem : ctx ∈
      s.byCtx.values.filter (Search.matchesParams env params dates requester anonymousPublicReads now) := by
    unfold Search.retainAfter at hctx
    split at hctx
    · exact (List.mergeSort_perm _ _).mem_iff.mp hctx
    · exact (List.mergeSort_perm _ _).mem_iff.mp (List.mem_of_mem_filter hctx)
  exact ⟨dates, ctx, (List.mem_filter.mp hmem).1, (List.mem_filter.mp hmem).2, rfl⟩

theorem get?_of_mem_values (t : Store.ContextTable) (ctx : FullContext) (h : ctx ∈ t.values) :
    t.get? ctx.body.ctxId = some ctx := by
  obtain ⟨⟨id, ctx'⟩, hentry, rfl⟩ := List.mem_map.mp h
  have hget : t.entries[id]? = some ctx' := Std.ExtTreeMap.mem_toList_iff_getElem?_eq_some.mp hentry
  rw [t.keyed id ctx' hget]
  exact hget

theorem surfaced_retrieved (s : Inner) (env : SearchEnv) (params : SearchParams) (now : DateTime)
    (response : SearchResponse) (h : server.search env s params requester now = .ok response)
    (result : Search.SearchResult) (hresult : result ∈ response.matches) :
    ∃ ctx, server.retrieve s result.ctxId requester now = .ok (some ctx) ∧ result = searchResult now ctx := by
  rw [RegistryServer.search] at h
  split at h
  · cases h
  · obtain ⟨dates, ctx, hmem, hmatch, rfl⟩ :=
      mem_matches_search requester env s params _ now response result h hresult
    have hret := canRetrieve_of_matchesParams server requester env params dates now ctx hmatch
    refine ⟨projectContext ctx now, ?_, (searchResult_projectContext ctx now).symm⟩
    have hvisible : visible server.caps requester s ctx.body.ctxId = some ctx := by
      rw [visible, get?_of_mem_values _ ctx hmem, Option.filter, if_pos hret]
    rw [retrieve_eq, show (searchResult now ctx).ctxId = ctx.body.ctxId from rfl, hvisible]
    rfl

theorem reads_agree (s s' : Inner) (h : Agree server.caps requester s s') (env : SearchEnv)
    (now asOf : DateTime) :
    (∀ ctxId, server.retrieve s ctxId requester now = server.retrieve s' ctxId requester now) ∧
    (∀ ctxId, server.retrieveBody s ctxId requester now = server.retrieveBody s' ctxId requester now) ∧
    (∀ lineageId, server.lineage s lineageId requester now = server.lineage s' lineageId requester now) ∧
    (∀ lineageId, server.current s lineageId requester now asOf =
      server.current s' lineageId requester now asOf) ∧
    (∀ params, server.search env s params requester now = server.search env s' params requester now) ∧
    (∀ params response, server.search env s params requester now = .ok response →
      ∀ result ∈ response.matches, ∃ ctx, server.retrieve s result.ctxId requester now = .ok (some ctx) ∧
        result = searchResult now ctx) := by
  have hretrieve : ∀ ctxId, server.retrieve s ctxId requester now =
      server.retrieve s' ctxId requester now := by
    intro ctxId
    rw [retrieve_eq, retrieve_eq, h.contexts]
  refine ⟨hretrieve, ?_, ?_, ?_, fun params => search_eq server requester s s' h env params now,
    fun params response => surfaced_retrieved server requester s env params now response⟩
  · intro ctxId
    rw [RegistryServer.retrieveBody, RegistryServer.retrieveBody, hretrieve]
  · intro lineageId
    rw [RegistryServer.lineage, RegistryServer.lineage, lineage_filter_eq, lineage_filter_eq, h.lineages]
  · intro lineageId
    rw [current_eq, current_eq, h.lineages]

theorem agree_insertContext (caps : Capabilities) (s : Inner) (ctx : FullContext)
    (hfresh : s.byCtx.get? ctx.body.ctxId = none) (hhidden : canRetrieve ctx.body requester caps = false) :
    Agree caps requester s (s.insertContext ctx) := by
  have hvisible : ∀ id, visible caps requester s id = visible caps requester (s.insertContext ctx) id := by
    intro id
    rw [visible, visible, Inner.insertContext, Store.ContextTable.get?_insert]
    split
    · next hid =>
      rw [← hid, hfresh]
      simp [Option.filter, hhidden]
    · rfl
  refine ⟨hvisible, fun lineageId => ?_⟩
  rw [visibleVersions, visibleVersions, ← funext hvisible]
  simp only [Inner.insertContext, Std.ExtTreeMap.getElem?_insert, Std.LawfulEqCmp.compare_eq_iff_eq]
  split
  · next hid =>
    have hself : visible caps requester s ctx.body.ctxId = none := by
      rw [visible, hfresh]
      rfl
    rw [← hid, Option.getD_some, List.filterMap_append, Std.ExtTreeMap.getD_eq_getD_getElem?]
    simp [hself]
  · rfl

def sampleServer : RegistryServer := ⟨⟨true⟩, false, none⟩

def samplePublished : Inner :=
  Store.runCalls Store.sampleSha256
    [.commitPublish (Store.sampleCommit (Store.sampleRequest 1 none "sha256:01") none)
    (Store.sampleInstant 0) Store.sampleUuid1] Inner.new

def samplePrivate : FullContext :=
  Store.storedContext (Body.fromPublishRequest { Store.sampleRequest 1 none "sha256:02" with
    visibility := .private }
    Store.sampleCtx2 (Acdp.Crypto.deriveLineageId Store.sampleSha256 Store.sampleCtx2) "registry.example.com"
    (Store.sampleInstant 0)) none

theorem private_context_unread :
    canRetrieve samplePrivate.body none sampleServer.caps = false ∧
    sampleServer.search Search.samplePageEnv samplePublished Search.sampleSearchParams none
      (Store.sampleInstant 1) = sampleServer.search Search.samplePageEnv
      (samplePublished.insertContext samplePrivate) Search.sampleSearchParams none
      (Store.sampleInstant 1) := by
  have hagree := agree_insertContext none sampleServer.caps samplePublished samplePrivate
    (by decide +kernel) rfl
  exact ⟨rfl, (reads_agree sampleServer none _ _ hagree Search.samplePageEnv (Store.sampleInstant 1)
    (Store.sampleInstant 1)).2.2.2.2.1 Search.sampleSearchParams⟩

end Acdp.Registry.Server
