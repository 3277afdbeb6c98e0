import Acdp.Registry.LineageHead
import Mathlib.Data.Set.Insert

namespace Acdp.Registry.Store

open Acdp.Types
open Acdp.Crypto.Merkle (Digest)

/-- `s'` is `s` with the lineages `added` put beside what `s` holds. -/
structure PlusLineages (added : Set LineageId) (s s' : Inner) : Prop where
  kept : ∀ id ctx, s.byCtx.get? id = some ctx → s'.byCtx.get? id = some ctx
  added_only : ∀ id ctx, s.byCtx.get? id = none → s'.byCtx.get? id = some ctx → ctx.body.lineageId ∈ added
  disjoint : ∀ id ctx, s.byCtx.get? id = some ctx → ctx.body.lineageId ∉ added
  index : ∀ lineageId, lineageId ∉ added → s'.lineages[lineageId]? = s.lineages[lineageId]?

def Foreign (requester : AgentDid) (added : Set LineageId) (s : Inner) : Prop :=
  ∀ id ctx, s.byCtx.get? id = some ctx → ctx.body.lineageId ∈ added →
    requester ≠ ctx.body.agentId ∧ requester ∉ ctx.body.contributors

section PairOfStates

variable (added : Set LineageId) (s s' : Inner) (commit : PublishCommit)

theorem replayOrCollision_eq (now : DateTime)
    (hidem : ∀ key, s'.idempotency (commit.req.agentId, key) = s.idempotency (commit.req.agentId, key)) :
    replayOrCollision s' commit now = replayOrCollision s commit now := by
  unfold replayOrCollision
  cases commit.idempotency with
  | none => rfl
  | some idem => simp only [hidem]

theorem firstVersionCtxId_eq (h : PlusLineages added s s') (id : CtxId) (ctx : FullContext)
    (hget : s.byCtx.get? id = some ctx) :
    firstVersionCtxId s' ctx.body.lineageId = firstVersionCtxId s ctx.body.lineageId := by
  rw [firstVersionCtxId, firstVersionCtxId, h.index _ (h.disjoint id ctx hget)]

theorem firstV1_eq (h : PlusLineages added s s') (hforeign : Foreign commit.req.agentId added s') :
    firstV1 s' commit = firstV1 s commit := by
  unfold firstV1
  cases hsup : commit.req.supersedes with
  | none => rfl
  | some prev =>
    cases hget : s.byCtx.get? prev with
    | some ctx =>
      simp only [hget, h.kept prev ctx hget, firstVersionCtxId_eq added s s' h prev ctx hget]
    | none =>
      cases hget' : s'.byCtx.get? prev with
      | none => simp only [hget, hget']
      | some ctx =>
        obtain ⟨hagent, hcontributor⟩ := hforeign prev ctx hget' (h.added_only prev ctx hget hget')
        simp [hget, hget', hagent, hcontributor]

theorem isSome_get?_eq (h : PlusLineages added s s') (id : CtxId)
    (hfresh : ∀ ctx, s'.byCtx.get? id = some ctx → ctx.body.lineageId ∉ added) :
    (s'.byCtx.get? id).isSome = (s.byCtx.get? id).isSome := by
  cases hget : s.byCtx.get? id with
  | some ctx => rw [h.kept id ctx hget]
  | none =>
    cases hget' : s'.byCtx.get? id with
    | none => rfl
    | some ctx => exact absurd (h.added_only id ctx hget hget') (hfresh ctx hget')

theorem assignIdentifiers_ctxId (sha256 : List UInt8 → Digest) (authority uuid : String)
    (supersedes first : Option CtxId) (ids : CtxId × LineageId)
    (h : assignIdentifiers sha256 authority uuid supersedes first = .ok ids) :
    ids.1 = mintedCtxId authority uuid := by
  unfold assignIdentifiers at h
  split at h
  · obtain rfl := Except.ok.inj h
    rfl
  · obtain rfl := Except.ok.inj h
    rfl
  · cases h

theorem preparePublish_eq (sha256 : List UInt8 → Digest) (now : DateTime) (uuid : String)
    (h : PlusLineages added s s') (hforeign : Foreign commit.req.agentId added s')
    (hfresh : ∀ ctx, s'.byCtx.get? (mintedCtxId commit.authority uuid) = some ctx →
      ctx.body.lineageId ∉ added) :
    preparePublish sha256 s' commit now uuid = preparePublish sha256 s commit now uuid := by
  rw [preparePublish, preparePublish, firstV1_eq added s s' commit h hforeign]
  cases firstV1 s commit with
  | error e => rfl
  | ok first =>
    simp only [bind, Except.bind]
    cases hids : assignIdentifiers sha256 commit.authority uuid commit.req.supersedes first with
    | error e => rfl
    | ok ids =>
      obtain ⟨ctxId, lineageId⟩ := ids
      have hctx : (s'.byCtx.get? (Body.fromPublishRequest commit.req ctxId lineageId commit.authority
        now).ctxId).isSome =
        (s.byCtx.get? (Body.fromPublishRequest commit.req ctxId lineageId commit.authority
        now).ctxId).isSome := by
        have hminted := assignIdentifiers_ctxId sha256 _ _ _ _ _ hids
        change (s'.byCtx.get? ctxId).isSome = (s.byCtx.get? ctxId).isSome
        rw [show ctxId = mintedCtxId commit.authority uuid from hminted]
        exact isSome_get?_eq added s s' h _ hfresh
      dsimp only
      rw [hctx]

end PairOfStates

theorem commitPublish_error_unchanged (sha256 : List UInt8 → Digest) (commit : PublishCommit) (now : DateTime)
    (uuid : String) (s : Inner) (e : AcdpError) (h : (commitPublish sha256 commit now uuid s).1 = .error e) :
    (commitPublish sha256 commit now uuid s).2 = s := by
  obtain ⟨outcome, -, heq⟩ | ⟨e', -, -, heq⟩ | ⟨body, receipt, -, -, heq⟩ :=
    commitPublish_cases sha256 commit now uuid s
  · rw [heq]
  · rw [heq]
  · rw [heq] at h
    cases h

theorem commitPublish_atomic_no_oracle (sha256 : List UInt8 → Digest) (commit : PublishCommit)
    (now : DateTime) (uuid : String) (s : Inner) :
    (∀ e, (commitPublish sha256 commit now uuid s).1 = .error e →
      (commitPublish sha256 commit now uuid s).2 = s) ∧
    (∀ (added : Set LineageId) (s' : Inner), PlusLineages added s s' → Foreign commit.req.agentId added s' →
      (∀ key, s'.idempotency (commit.req.agentId, key) = s.idempotency (commit.req.agentId, key)) →
      (∀ ctx, s'.byCtx.get? (mintedCtxId commit.authority uuid) = some ctx → ctx.body.lineageId ∉ added) →
      (commitPublish sha256 commit now uuid s').1 = (commitPublish sha256 commit now uuid s).1) := by
  refine ⟨fun e he => commitPublish_error_unchanged sha256 commit now uuid s e he, ?_⟩
  intro added s' hplus hforeign hidem hfresh
  rw [commitPublish, commitPublish, replayOrCollision_eq s s' commit now hidem,
    preparePublish_eq added s s' commit sha256 now uuid hplus hforeign hfresh]
  cases replayOrCollision s commit now with
  | some outcome => rfl
  | none =>
    cases preparePublish sha256 s commit now uuid with
    | error e => rfl
    | ok prepared => rfl

theorem plusLineages_insertContext (s : Inner) (ctx : FullContext) (hid : s.byCtx.get? ctx.body.ctxId = none)
    (hlineage : ∀ id other, s.byCtx.get? id = some other → other.body.lineageId ≠ ctx.body.lineageId) :
    PlusLineages {ctx.body.lineageId} s (s.insertContext ctx) where
  kept := by
    intro id other hget
    rw [Inner.insertContext, ContextTable.get?_insert, if_neg, hget]
    rintro rfl
    rw [hid] at hget
    cases hget
  added_only := by
    intro id other hnone hget
    rw [Inner.insertContext, ContextTable.get?_insert] at hget
    split at hget
    · obtain rfl := Option.some.inj hget
      rfl
    · rw [hnone] at hget
      cases hget
  disjoint := by
    intro id other hget
    exact hlineage id other hget
  index := by
    intro lineageId hne
    rw [Inner.insertContext]
    simp only [Std.ExtTreeMap.getElem?_insert, Std.LawfulEqCmp.compare_eq_iff_eq]
    rw [if_neg]
    rintro rfl
    exact hne rfl

def sampleStranger : PublishCommit :=
  sampleCommit { sampleRequest 2 (some sampleCtx1) "sha256:02" with
    agentId := "did:web:mallory.example.com" } none

def sampleAlice : FullContext :=
  storedContext (Body.fromPublishRequest (sampleRequest 1 none "sha256:01") sampleCtx1
    (Acdp.Crypto.deriveLineageId sampleSha256 sampleCtx1) "registry.example.com" (sampleInstant 0)) none

theorem stranger_learns_nothing :
    (commitPublish sampleSha256 sampleStranger (sampleInstant 1) sampleUuid2
      (Inner.new.insertContext sampleAlice)).1 = .error (supersessionNotFound sampleCtx1) ∧
    (commitPublish sampleSha256 sampleStranger (sampleInstant 1) sampleUuid2
        (Inner.new.insertContext sampleAlice)).1 =
      (commitPublish sampleSha256 sampleStranger (sampleInstant 1) sampleUuid2 Inner.new).1 := by
  have hplus := plusLineages_insertContext Inner.new sampleAlice (ContextTable.get?_empty _)
    (fun id other h => by rw [Inner.new, ContextTable.get?_empty] at h; cases h)
  have hget : ∀ id ctx, (Inner.new.insertContext sampleAlice).byCtx.get? id = some ctx →
      id = sampleCtx1 ∧ ctx = sampleAlice := by
    intro id ctx h
    rw [Inner.insertContext, ContextTable.get?_insert] at h
    split at h
    · next hid => exact ⟨hid.symm, (Option.some.inj h).symm⟩
    · rw [Inner.new, ContextTable.get?_empty] at h
      cases h
  have heq := (commitPublish_atomic_no_oracle sampleSha256 sampleStranger (sampleInstant 1)
    sampleUuid2 Inner.new).2 _ _ hplus (by
      intro id ctx h _
      obtain ⟨-, rfl⟩ := hget id ctx h
      decide) (fun _ => rfl) (by
      intro ctx h
      exact absurd (hget _ ctx h).1 (by decide +kernel))
  refine ⟨heq.trans ?_, heq⟩
  rfl

end Acdp.Registry.Store
