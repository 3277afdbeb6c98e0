import Acdp.Registry.Lineage
import Acdp.Validation.Fields

namespace Acdp.Registry.Store

open Acdp.Types
open Acdp.Crypto (deriveLineageId deriveLineageId_eq_iff utf8)
open Acdp.Crypto.Merkle (Digest)
open Acdp.Validation (validateVersion)

theorem validateVersion_first (req : PublishRequest) (h : validateVersion req = .ok ())
    (hsup : req.supersedes = none) : req.version = 1 := by
  rw [validateVersion, hsup] at h
  dsimp only at h
  split_ifs at h with hv
  exact hv

theorem validateVersion_successor (req : PublishRequest) (prev : CtxId) (h : validateVersion req = .ok ())
    (hsup : req.supersedes = some prev) : 2 ≤ req.version := by
  rw [validateVersion, hsup] at h
  dsimp only at h
  split_ifs at h with hv
  exact hv

theorem toNat_succ_of_two_le (v w : UInt32) (h : v = w + 1) (hv : 2 ≤ v) :
    v.toNat = w.toNat + 1 := by
  have hw := w.toNat_lt
  have h2 : 2 ≤ v.toNat := hv
  rw [h, UInt32.toNat_add] at h2 ⊢
  have h1 : (1 : UInt32).toNat = 1 := rfl
  rw [h1] at h2 ⊢
  omega

variable {derive : CtxId → LineageId} {minted : Set CtxId} {s s' : Inner}
  {sha256 : List UInt8 → Digest}

theorem LineageInvariant.extend (h : LineageInvariant derive minted s) (lineageId : LineageId)
    (ids : List CtxId) (c : CtxId) (ctx : FullContext) (hc : c ∈ minted)
    (hlineages : ∀ l : LineageId, s'.lineages[l]? =
      if lineageId = l then some ids else s.lineages[l]?)
    (hlist : LineageList derive s' lineageId ids)
    (hsub : ∀ olds : List CtxId, s.lineages[lineageId]? = some olds → olds ⊆ ids) (hmem : c ∈ ids)
    (hget : s'.byCtx.get? c = some ctx) (hl : ctx.body.lineageId = lineageId)
    (hbody : ∀ id, id ≠ c → (s'.byCtx.get? id).map (·.body) = (s.byCtx.get? id).map (·.body))
    (hother : ∀ id old, s.byCtx.get? id = some old → old.body.lineageId ≠ lineageId →
      s'.byCtx.get? id = some old) :
    LineageInvariant derive minted s' := by
  have hback : ∀ id new, id ≠ c → s'.byCtx.get? id = some new →
      ∃ old, s.byCtx.get? id = some old ∧ old.body = new.body := by
    intro id new hid hnew
    have hb := hbody id hid
    rw [hnew, Option.map_some, eq_comm, Option.map_eq_some_iff] at hb
    exact hb
  refine ⟨?_, ?_, ?_⟩
  · intro l ids' hids
    rw [hlineages] at hids
    split_ifs at hids with hl'
    · obtain rfl := Option.some.inj hids
      exact hl' ▸ hlist
    · have hlistl := h.lists l ids' hids
      refine hlistl.frame ?_
      intro id hid old hold
      obtain ⟨old', hold', holdl⟩ := hlistl.mem_stored id hid
      obtain rfl : old' = old := Option.some.inj (hold'.symm.trans hold)
      exact ⟨old', hother id old' hold (by rw [holdl]; exact fun he => hl' he.symm), rfl, rfl⟩
  · intro id new hnew
    by_cases hid : id = c
    · subst hid
      obtain rfl : ctx = new := Option.some.inj (hget.symm.trans hnew)
      exact ⟨ids, by rw [hlineages, if_pos hl.symm], hmem⟩
    · obtain ⟨old, hold, hb⟩ := hback id new hid hnew
      obtain ⟨olds, holds, hmemo⟩ := h.indexed id old hold
      rw [← hb, hlineages]
      by_cases hlo : lineageId = old.body.lineageId
      · rw [if_pos hlo]
        exact ⟨ids, rfl, hsub olds (hlo ▸ holds) hmemo⟩
      · rw [if_neg hlo]
        exact ⟨olds, holds, hmemo⟩
  · intro id new hnew
    by_cases hid : id = c
    · exact hid ▸ hc
    · obtain ⟨old, hold, -⟩ := hback id new hid hnew
      exact h.minted id old hold

theorem LineageInvariant.fresh_lineage (h : LineageInvariant (deriveLineageId sha256) minted s)
    (hsha : Set.InjOn (fun c => sha256 (utf8 c)) minted) (c : CtxId) (hc : c ∈ minted)
    (hfresh : s.byCtx.get? c = none) : s.lineages[deriveLineageId sha256 c]? = none := by
  by_contra hne
  obtain ⟨ids, hids⟩ := Option.ne_none_iff_exists'.mp hne
  have hlist := h.lists _ ids hids
  obtain ⟨v1, hv1⟩ : ∃ v1, ids.head? = some v1 := by
    cases ids with
    | nil => exact absurd rfl hlist.nonempty
    | cons v1 rest => exact ⟨v1, rfl⟩
  obtain ⟨ctx, hget, -⟩ := hlist.mem_stored v1 (List.mem_of_mem_head? hv1)
  have hcoll : c = v1 := hsha hc (h.minted v1 ctx hget)
    ((deriveLineageId_eq_iff sha256 c v1).mp (hlist.derived v1 hv1))
  rw [hcoll, hget] at hfresh
  cases hfresh

theorem publish_get?_of_ne (commit : PublishCommit) (now : DateTime) (body : Body)
    (registryReceipt : Option Json) (id : CtxId) (hid : id ≠ body.ctxId)
    (hsup : commit.req.supersedes ≠ some id) :
    (s.publish commit now body registryReceipt).byCtx.get? id = s.byCtx.get? id := by
  rw [publish_get?, if_neg (Ne.symm hid)]
  simp [hsup]

theorem publish_get?_self (commit : PublishCommit) (now : DateTime) (body : Body)
    (registryReceipt : Option Json) (hsup : commit.req.supersedes ≠ some body.ctxId) :
    (s.publish commit now body registryReceipt).byCtx.get? body.ctxId =
      some (storedContext body registryReceipt) := by
  rw [publish_get?, if_pos rfl]
  simp [hsup]

theorem publish_get?_body (commit : PublishCommit) (now : DateTime) (body : Body)
    (registryReceipt : Option Json) (id : CtxId) (hid : id ≠ body.ctxId) :
    ((s.publish commit now body registryReceipt).byCtx.get? id).map (·.body) =
      (s.byCtx.get? id).map (·.body) := by
  rw [publish_get?, if_neg (Ne.symm hid), Option.map_map]
  congr 1
  funext c
  simp only [Function.comp_apply]
  split_ifs <;> rfl

theorem LineageInvariant.publish_first (h : LineageInvariant (deriveLineageId sha256) minted s)
    (hsha : Set.InjOn (fun c => sha256 (utf8 c)) minted) (commit : PublishCommit) (now : DateTime)
    (body : Body) (registryReceipt : Option Json) (hc : body.ctxId ∈ minted)
    (hfresh : s.byCtx.get? body.ctxId = none) (hreq : commit.req.supersedes = none)
    (hsup : body.supersedes = none) (hversion : body.version = 1)
    (hl : body.lineageId = deriveLineageId sha256 body.ctxId) :
    LineageInvariant (deriveLineageId sha256) minted
      (s.publish commit now body registryReceipt) := by
  have hnone : s.lineages[body.lineageId]? = none := by
    rw [hl]
    exact h.fresh_lineage hsha body.ctxId hc hfresh
  have hgetD : s.lineages.getD body.lineageId [] = [] := by
    rw [Std.ExtTreeMap.getD_eq_getD_getElem?, hnone, Option.getD_none]
  have hself := publish_get?_self (s := s) commit now body registryReceipt (by simp [hreq])
  refine h.extend body.lineageId [body.ctxId] body.ctxId (storedContext body registryReceipt) hc
    ?_ ?_ ?_ (List.mem_singleton_self _) hself rfl
    (fun id hid => publish_get?_body commit now body registryReceipt id hid) ?_
  · intro l
    rw [publish_lineages, hgetD, List.nil_append]
  · refine LineageList.single body.ctxId _ hself ?_ rfl hsup rfl hl
    change body.version.toNat = 1
    rw [hversion]
    rfl
  · intro olds holds
    rw [hnone] at holds
    cases holds
  · intro id old hold _
    rw [publish_get?_of_ne _ _ _ _ _ ?_ (by simp [hreq]), hold]
    rintro rfl
    rw [hfresh] at hold
    cases hold

theorem LineageInvariant.publish_successor (h : LineageInvariant (deriveLineageId sha256) minted s)
    (commit : PublishCommit) (now : DateTime) (body : Body) (registryReceipt : Option Json)
    (hc : body.ctxId ∈ minted) (hfresh : s.byCtx.get? body.ctxId = none) (prev v1 : CtxId)
    (prevCtx : FullContext) (hreq : commit.req.supersedes = some prev)
    (hsup : body.supersedes = some prev) (hprev : s.byCtx.get? prev = some prevCtx)
    (hstatus : prevCtx.registryState.status ≠ .superseded)
    (hversion : body.version.toNat = prevCtx.body.version.toNat + 1)
    (hfirst : firstVersionCtxId s prevCtx.body.lineageId = some v1)
    (hl : body.lineageId = deriveLineageId sha256 v1) :
    LineageInvariant (deriveLineageId sha256) minted
      (s.publish commit now body registryReceipt) := by
  obtain ⟨ids, hids, hmem⟩ := h.indexed prev prevCtx hprev
  have hlist := h.lists _ ids hids
  have hne : prev ≠ body.ctxId := by
    rintro rfl
    rw [hprev] at hfresh
    cases hfresh
  have hlineage : body.lineageId = prevCtx.body.lineageId := by
    rw [firstVersionCtxId, hids] at hfirst
    rw [hl, ← hlist.derived v1 hfirst]
  obtain ⟨hlast, hlen⟩ := hlist.head_of_not_superseded prev prevCtx hmem hprev hstatus
  have hgetD : s.lineages.getD body.lineageId [] = ids := by
    rw [hlineage, Std.ExtTreeMap.getD_eq_getD_getElem?, hids, Option.getD_some]
  have hnotin : ∀ (l : LineageId) (ids' : List CtxId), s.lineages[l]? = some ids' →
      body.ctxId ∉ ids' := by
    intro l ids' hids' hin
    obtain ⟨ctx, hget, -⟩ := (h.lists l ids' hids').mem_stored _ hin
    rw [hget] at hfresh
    cases hfresh
  have hself := publish_get?_self (s := s) commit now body registryReceipt
    (by rw [hreq]; exact fun he => hne (Option.some.inj he))
  refine h.extend body.lineageId (ids ++ [body.ctxId]) body.ctxId (storedContext body registryReceipt)
    hc ?_ ?_ ?_ (by simp) hself rfl
    (fun id hid => publish_get?_body commit now body registryReceipt id hid) ?_
  · intro l
    rw [publish_lineages, hgetD]
  · rw [hlineage]
    refine hlist.snoc prev body.ctxId prevCtx _ hlast (hnotin _ ids hids) ?_ hprev ?_ hself
      (by rw [← hlen]; exact hversion) hlineage hsup rfl
    · intro id hid hidp
      refine publish_get?_of_ne _ _ _ _ _ ?_ (by rw [hreq]; exact fun he => hidp (Option.some.inj he).symm)
      rintro rfl
      exact hnotin _ ids hids hid
    · rw [publish_get?, if_neg (Ne.symm hne), hprev, Option.map_some, if_pos hreq]
  · intro olds holds
    rw [hlineage, hids] at holds
    obtain rfl := Option.some.inj holds
    exact List.subset_append_left _ _
  · intro id old hold holdl
    rw [publish_get?_of_ne _ _ _ _ _ ?_ ?_, hold]
    · rintro rfl
      rw [hfresh] at hold
      cases hold
    · rw [hreq]
      intro he
      obtain rfl := Option.some.inj he
      obtain rfl : prevCtx = old := Option.some.inj (hprev.symm.trans hold)
      exact holdl hlineage.symm

theorem LineageInvariant.commitPublish (h : LineageInvariant (deriveLineageId sha256) minted s)
    (hsha : Set.InjOn (fun c => sha256 (utf8 c)) minted) (commit : PublishCommit) (now : DateTime)
    (uuid : String) (hc : mintedCtxId commit.authority uuid ∈ minted)
    (hval : validateVersion commit.req = .ok ()) :
    LineageInvariant (deriveLineageId sha256) minted
      (Store.commitPublish sha256 commit now uuid s).2 := by
  obtain ⟨o, -, hcall⟩ | ⟨e, -, -, hcall⟩ | ⟨body, receipt, -, hprep, hcall⟩ :=
    commitPublish_cases sha256 commit now uuid s
  · rw [hcall]
    exact h
  · rw [hcall]
    exact h
  · rw [hcall]
    obtain ⟨first, lineageId, hfirst, hassign, rfl, hfresh, -⟩ := preparePublish_ok _ _ _ _ _ _ _ hprep
    obtain ⟨-, hids⟩ := assignIdentifiers_ok _ _ _ _ _ _ hassign
    obtain ⟨hreq, -⟩ | ⟨prev, prevCtx, hreq, hprev, -, -, hversion, hstatus, -, rfl⟩ :=
      firstV1_ok s commit first hfirst
    · obtain ⟨-, hl⟩ | ⟨prev, v1, hsup, -, -⟩ := hids
      · exact h.publish_first hsha commit now _ receipt hc hfresh hreq hreq
          (validateVersion_first commit.req hval hreq) hl
      · rw [hreq] at hsup
        cases hsup
    · obtain ⟨hsup, -⟩ | ⟨prev', v1, hsup, hv1, hl⟩ := hids
      · rw [hreq] at hsup
        cases hsup
      · exact h.publish_successor commit now _ receipt hc hfresh prev v1 prevCtx hreq hreq hprev hstatus
          (toNat_succ_of_two_le _ _ hversion (validateVersion_successor commit.req prev hval hreq)) hv1 hl

end Acdp.Registry.Store
