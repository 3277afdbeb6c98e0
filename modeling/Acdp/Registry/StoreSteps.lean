import Acdp.Registry.Store

namespace Acdp.Registry.Store

open Acdp.Types
open Acdp.Crypto (deriveLineageId)
open Acdp.Crypto.Merkle (Digest)

theorem firstV1_ok (s : Inner) (commit : PublishCommit) (first : Option CtxId)
    (h : firstV1 s commit = .ok first) :
    (commit.req.supersedes = none ∧ first = none) ∨
    (∃ prev prevFull, commit.req.supersedes = some prev ∧ s.byCtx.get? prev = some prevFull ∧
      (commit.req.agentId = prevFull.body.agentId ∨
        commit.req.agentId ∈ prevFull.body.contributors) ∧
      (∀ declared ∈ commit.req.lineageId, declared = prevFull.body.lineageId) ∧
      commit.req.version = prevFull.body.version + 1 ∧
      prevFull.registryState.status ≠ .superseded ∧
      runAdmission commit prevFull.body = .ok () ∧
      first = firstVersionCtxId s prevFull.body.lineageId) := by
  rw [firstV1] at h
  cases hsup : commit.req.supersedes with
  | none =>
    rw [hsup] at h
    exact .inl ⟨rfl, (Except.ok.inj h).symm⟩
  | some prev =>
    rw [hsup] at h
    cases hget : s.byCtx.get? prev with
    | none =>
      simp only [hget] at h
      cases h
    | some prevFull =>
      cases hlineage : commit.req.lineageId.filter (· ≠ prevFull.body.lineageId) with
      | some declared =>
        simp only [hget, hlineage] at h
        split_ifs at h
      | none =>
        simp only [hget, hlineage] at h
        split_ifs at h with howner hversion hstatus
        cases hadm : runAdmission commit prevFull.body with
        | error e =>
          rw [hadm] at h
          cases h
        | ok u =>
          rw [hadm] at h
          refine .inr ⟨prev, prevFull, rfl, hget, howner, ?_, not_not.mp hversion, hstatus,
            hadm, (Except.ok.inj h).symm⟩
          intro declared hd
          have hne := Option.filter_eq_none_iff.mp hlineage declared hd
          simpa using hne

theorem assignIdentifiers_ok (sha256 : List UInt8 → Digest) (authority uuid : String)
    (supersedes first : Option CtxId) (ids : CtxId × LineageId)
    (h : assignIdentifiers sha256 authority uuid supersedes first = .ok ids) :
    ids.1 = mintedCtxId authority uuid ∧
      ((supersedes = none ∧ ids.2 = deriveLineageId sha256 ids.1) ∨
        ∃ prev v1, supersedes = some prev ∧ first = some v1 ∧ ids.2 = deriveLineageId sha256 v1) := by
  cases supersedes with
  | none =>
    obtain rfl := Except.ok.inj h
    exact ⟨rfl, .inl ⟨rfl, rfl⟩⟩
  | some prev =>
    cases first with
    | none => cases h
    | some v1 =>
      obtain rfl := Except.ok.inj h
      exact ⟨rfl, .inr ⟨prev, v1, rfl, rfl, rfl⟩⟩

theorem preparePublish_ok (sha256 : List UInt8 → Digest) (s : Inner) (commit : PublishCommit)
    (now : DateTime) (uuid : String) (body : Body) (registryReceipt : Option Json)
    (h : preparePublish sha256 s commit now uuid = .ok (body, registryReceipt)) :
    ∃ first lineageId, firstV1 s commit = .ok first ∧
      assignIdentifiers sha256 commit.authority uuid commit.req.supersedes first =
        .ok (mintedCtxId commit.authority uuid, lineageId) ∧
      body = Body.fromPublishRequest commit.req (mintedCtxId commit.authority uuid) lineageId
        commit.authority now ∧
      s.byCtx.get? (mintedCtxId commit.authority uuid) = none ∧
      mintReceipt commit body = .ok registryReceipt := by
  rw [preparePublish] at h
  cases hfirst : firstV1 s commit with
  | error e =>
    rw [hfirst] at h
    cases h
  | ok first =>
    rw [hfirst] at h
    cases hids : assignIdentifiers sha256 commit.authority uuid commit.req.supersedes first with
    | error e =>
      simp only [bind, Except.bind, hids] at h
      cases h
    | ok ids =>
      obtain ⟨ctxId, lineageId⟩ := ids
      obtain ⟨hctx, -⟩ := assignIdentifiers_ok _ _ _ _ _ _ hids
      dsimp only at hctx
      subst hctx
      simp only [bind, Except.bind, hids] at h
      split_ifs at h with hcol
      cases hmint : mintReceipt commit (Body.fromPublishRequest commit.req
          (mintedCtxId commit.authority uuid) lineageId commit.authority now) with
      | error e =>
        rw [hmint] at h
        cases h
      | ok receipt =>
        rw [hmint] at h
        obtain ⟨rfl, rfl⟩ := Prod.mk.inj (Except.ok.inj h)
        refine ⟨first, lineageId, rfl, hids, rfl, ?_, hmint⟩
        simpa [Body.fromPublishRequest] using hcol

theorem commitPublish_cases (sha256 : List UInt8 → Digest) (commit : PublishCommit) (now : DateTime)
    (uuid : String) (s : Inner) :
    (∃ outcome, replayOrCollision s commit now = some outcome ∧
      commitPublish sha256 commit now uuid s = (outcome, s)) ∨
    (∃ e, replayOrCollision s commit now = none ∧
      preparePublish sha256 s commit now uuid = .error e ∧
      commitPublish sha256 commit now uuid s = (.error e, s)) ∨
    (∃ body registryReceipt, replayOrCollision s commit now = none ∧
      preparePublish sha256 s commit now uuid = .ok (body, registryReceipt) ∧
      commitPublish sha256 commit now uuid s =
        (.ok (.inserted (publishResponse commit.req body registryReceipt)),
          s.publish commit now body registryReceipt)) := by
  rw [commitPublish]
  cases hreplay : replayOrCollision s commit now with
  | some outcome => exact .inl ⟨outcome, rfl, rfl⟩
  | none =>
    cases hprep : preparePublish sha256 s commit now uuid with
    | error e => exact .inr (.inl ⟨e, rfl, rfl, rfl⟩)
    | ok prepared => exact .inr (.inr ⟨prepared.1, prepared.2, rfl, rfl, rfl⟩)

theorem replayOrCollision_some (s : Inner) (commit : PublishCommit) (now : DateTime)
    (outcome : Except AcdpError PublishCommitOutcome)
    (h : replayOrCollision s commit now = some outcome) :
    ∃ idem prior, commit.idempotency = some idem ∧
      s.idempotency (commit.req.agentId, idem.key) = some prior ∧ now.nanos < prior.expiresAt ∧
      ((prior.contentHash = commit.req.contentHash ∧ outcome = .ok (.idempotentReplay prior.response)) ∨
        (prior.contentHash ≠ commit.req.contentHash ∧ ∃ msg, outcome = .error (.duplicatePublish msg))) := by
  rw [replayOrCollision] at h
  cases hidem : commit.idempotency with
  | none =>
    rw [hidem] at h
    cases h
  | some idem =>
    rw [hidem] at h
    cases hprior : s.idempotency (commit.req.agentId, idem.key) with
    | none =>
      simp only [hprior] at h
      cases h
    | some prior =>
      simp only [hprior] at h
      split_ifs at h with hlive hhash
      · exact ⟨idem, prior, rfl, hprior, hlive, .inl ⟨hhash, (Option.some.inj h).symm⟩⟩
      · exact ⟨idem, prior, rfl, hprior, hlive, .inr ⟨hhash, _, (Option.some.inj h).symm⟩⟩

theorem checkAlternation_ok (event : LifecycleEvent) (retracted : Bool)
    (h : checkAlternation event retracted = .ok ()) :
    event.eventType = if retracted then .republished else .retracted := by
  rw [checkAlternation] at h
  cases hty : event.eventType with
  | retracted =>
    rw [hty] at h
    cases retracted with
    | true => cases h
    | false => rfl
  | republished =>
    rw [hty] at h
    cases retracted with
    | true => rfl
    | false => cases h
  | other name =>
    rw [hty] at h
    cases h

theorem commitLifecycleEvent_cases (event : LifecycleEvent) (now : DateTime) (s : Inner) :
    (∃ e, commitLifecycleEvent event now s = (.error e, s)) ∨
    (∃ ctx, s.byCtx.get? event.ctxId = some ctx ∧
      (ctx.registryState.lifecycleEvents.getD []).find? (·.eventId == event.eventId) = some event ∧
      commitLifecycleEvent event now s = (.ok (.idempotentReplay (projectContext ctx now)), s)) ∨
    (∃ ctx, s.byCtx.get? event.ctxId = some ctx ∧
      (ctx.registryState.lifecycleEvents.getD []).find? (·.eventId == event.eventId) = none ∧
      checkAlternation event (retractionState (ctx.registryState.lifecycleEvents.getD [])) = .ok () ∧
      commitLifecycleEvent event now s =
        (.ok (.applied (projectContext
            { ctx with registryState := appendEvent event ctx.registryState } now)),
          { s with byCtx := s.byCtx.setState event.ctxId (appendEvent event) })) := by
  rw [commitLifecycleEvent]
  cases hget : s.byCtx.get? event.ctxId with
  | none => exact .inl ⟨_, rfl⟩
  | some ctx =>
    dsimp only
    cases hfind : (ctx.registryState.lifecycleEvents.getD []).find? (·.eventId == event.eventId) with
    | some prior =>
      by_cases heq : prior = event
      · subst heq
        exact .inr (.inl ⟨ctx, rfl, hfind, if_pos rfl⟩)
      · exact .inl ⟨_, if_neg heq⟩
    | none =>
      cases halt : checkAlternation event
          (retractionState (ctx.registryState.lifecycleEvents.getD [])) with
      | error e => exact .inl ⟨e, rfl⟩
      | ok u => exact .inr (.inr ⟨ctx, rfl, hfind, halt, rfl⟩)

theorem insertContext_get? (s : Inner) (ctx : FullContext) (id : String) :
    (s.insertContext ctx).byCtx.get? id =
      if ctx.body.ctxId = id then some ctx else s.byCtx.get? id :=
  s.byCtx.get?_insert ctx id

theorem insertContext_lineages (s : Inner) (ctx : FullContext) (lineageId : String) :
    (s.insertContext ctx).lineages[lineageId]? =
      if ctx.body.lineageId = lineageId then
        some (s.lineages.getD ctx.body.lineageId [] ++ [ctx.body.ctxId])
      else s.lineages[lineageId]? := by
  simp only [Inner.insertContext, Std.ExtTreeMap.getElem?_insert,
    Std.LawfulEqCmp.compare_eq_iff_eq]

theorem supersedePredecessor_lineages (s : Inner) (supersedes : Option CtxId) :
    (s.supersedePredecessor supersedes).lineages = s.lineages := by
  cases supersedes <;> rfl

theorem recordIdempotency_byCtx (s : Inner) (commit : PublishCommit) (now : DateTime)
    (response : PublishResponse) : (s.recordIdempotency commit now response).byCtx = s.byCtx := by
  rw [Inner.recordIdempotency]
  cases commit.idempotency <;> rfl

theorem recordIdempotency_lineages (s : Inner) (commit : PublishCommit) (now : DateTime)
    (response : PublishResponse) :
    (s.recordIdempotency commit now response).lineages = s.lineages := by
  rw [Inner.recordIdempotency]
  cases commit.idempotency <;> rfl

theorem publish_lineages (s : Inner) (commit : PublishCommit) (now : DateTime) (body : Body)
    (registryReceipt : Option Json) (lineageId : String) :
    (s.publish commit now body registryReceipt).lineages[lineageId]? =
      if body.lineageId = lineageId then some (s.lineages.getD body.lineageId [] ++ [body.ctxId])
      else s.lineages[lineageId]? := by
  rw [Inner.publish, recordIdempotency_lineages, supersedePredecessor_lineages,
    insertContext_lineages]
  rfl

theorem publish_get? (s : Inner) (commit : PublishCommit) (now : DateTime) (body : Body)
    (registryReceipt : Option Json) (id : String) :
    (s.publish commit now body registryReceipt).byCtx.get? id =
      (if body.ctxId = id then some (storedContext body registryReceipt) else s.byCtx.get? id).map
        (fun c => if commit.req.supersedes = some id
          then { c with registryState := supersede c.registryState } else c) := by
  have hinsert : (s.insertContext (storedContext body registryReceipt)).byCtx.get? id =
      if body.ctxId = id then some (storedContext body registryReceipt) else s.byCtx.get? id :=
    insertContext_get? _ _ _
  rw [Inner.publish, recordIdempotency_byCtx, ← hinsert]
  cases hsup : commit.req.supersedes with
  | none => simp [Inner.supersedePredecessor]
  | some prev =>
    simp only [Inner.supersedePredecessor, markSuperseded, ContextTable.get?_setState,
      Option.some.injEq]
    by_cases hid : prev = id
    · simp [hid]
    · simp [hid]

theorem apply_body_cases (sha256 : List UInt8 → Digest) (call : StoreCall) (s : Inner) (id : CtxId)
    (ctx : FullContext) (h : (call.apply sha256 s).2.byCtx.get? id = some ctx) :
    (∃ old, s.byCtx.get? id = some old ∧ ctx.body = old.body) ∨
    (∃ req ctxId lineageId authority now,
      ctx.body = Body.fromPublishRequest req ctxId lineageId authority now) := by
  have hstate : ∀ (k : String) (f : RegistryState → RegistryState),
      (s.byCtx.setState k f).get? id = some ctx → ∃ old, s.byCtx.get? id = some old ∧
      ctx.body = old.body := by
    intro k f hget
    rw [ContextTable.get?_setState] at hget
    split_ifs at hget
    · obtain ⟨old, hold, rfl⟩ := Option.map_eq_some_iff.mp hget
      exact ⟨old, hold, rfl⟩
    · exact ⟨ctx, hget, rfl⟩
  cases call with
  | commitPublish commit now uuid =>
    rw [StoreCall.apply] at h
    obtain ⟨o, -, hcall⟩ | ⟨e, -, -, hcall⟩ | ⟨body, receipt, -, hprep, hcall⟩ :=
      commitPublish_cases sha256 commit now uuid s
    · rw [hcall] at h
      exact .inl ⟨ctx, h, rfl⟩
    · rw [hcall] at h
      exact .inl ⟨ctx, h, rfl⟩
    · rw [hcall] at h
      obtain ⟨first, lineageId, -, -, rfl, -, -⟩ := preparePublish_ok _ _ _ _ _ _ _ hprep
      obtain ⟨stored, hstored, rfl⟩ := Option.map_eq_some_iff.mp ((publish_get? _ _ _ _ _ _).symm.trans h)
      split_ifs at hstored
      · obtain rfl := Option.some.inj hstored
        refine .inr ⟨commit.req, mintedCtxId commit.authority uuid, lineageId, commit.authority, now, ?_⟩
        split_ifs <;> rfl
      · refine .inl ⟨stored, hstored, ?_⟩
        split_ifs <;> rfl
  | markSuperseded ctxId => exact .inl (hstate ctxId supersede h)
  | commitLifecycleEvent event now =>
    rw [StoreCall.apply] at h
    obtain ⟨e, hcall⟩ | ⟨c, -, -, hcall⟩ | ⟨c, -, -, -, hcall⟩ := commitLifecycleEvent_cases event now s
    · rw [hcall] at h
      exact .inl ⟨ctx, h, rfl⟩
    · rw [hcall] at h
      exact .inl ⟨ctx, h, rfl⟩
    · rw [hcall] at h
      exact .inl (hstate event.ctxId (appendEvent event) h)

end Acdp.Registry.Store
