import Acdp.Registry.RevocationAdmission

namespace Acdp.Registry.Server

open Acdp.Types
open Acdp.Crypto (computeContentHash deriveLineageId utf8)
open Acdp.Foundation.Entries (bind_ok)
open Acdp.Foundation.Transition
open Acdp.Registry.Store
open Acdp.Validation (PublishEnv)

/-- `b` may come right after `a` in a revocation lineage. -/
structure Follows (env : Env) (a b : Body) : Prop where
  type : a.contextType.isKeyRevocation → b.contextType.isKeyRevocation
  signerClass : ∀ r, KeyRevocation.fromBody env a = .ok r →
    ∃ r', KeyRevocation.fromBody env b = .ok r' ∧ r'.trustClass = r.trustClass

section Supersession

variable (env : Env)

theorem fromBody_fromPublishRequest (req : PublishRequest) (ctxId : CtxId) (lineageId : LineageId)
    (authority : String) (now : DateTime) :
    KeyRevocation.fromBody env (Body.fromPublishRequest req ctxId lineageId authority now) =
      (KeyRevocation.fromPublishRequest env req).map (fun r => { r with ctxId := some ctxId }) := by
  change (KeyRevocation.fromPublishRequest env req >>= fun r =>
    Except.ok { r with ctxId := some ctxId }) = _
  cases KeyRevocation.fromPublishRequest env req with
  | error e => rfl
  | ok r => rfl

theorem checkRevocationSupersession_follows (prev : Body) (req : PublishRequest) (acdpVersion : String)
    (h : checkRevocationSupersession env prev req acdpVersion = .ok ()) (ctxId : CtxId)
    (lineageId : LineageId)
    (authority : String) (now : DateTime) :
    Follows env prev (Body.fromPublishRequest req ctxId lineageId authority now) := by
  unfold checkRevocationSupersession at h
  by_cases hprev : prev.contextType.isKeyRevocation
  · rw [if_neg (not_not.mpr hprev)] at h
    by_cases hreq : req.contextType.isKeyRevocation
    · rw [if_neg (not_not.mpr hreq)] at h
      refine ⟨fun _ => hreq, ?_⟩
      intro r hr
      rw [hr] at h
      obtain ⟨incoming, hincoming, h⟩ := bind_ok _ _ _ h
      rw [fromBody_fromPublishRequest, hincoming]
      refine ⟨_, rfl, ?_⟩
      split_ifs at h with hclass
      exact hclass.symm
    · rw [if_pos hreq] at h
      split_ifs at h
  · refine ⟨fun hc => absurd hc hprev, ?_⟩
    intro r hr
    exact absurd (fromBody_reads env prev r hr).1 hprev

end Supersession

def Linked (env : Env) (s : Inner) : Prop :=
  ∀ id ctx prev, s.byCtx.get? id = some ctx → ctx.body.supersedes = some prev →
    ∃ prevCtx, s.byCtx.get? prev = some prevCtx ∧ Follows env prevCtx.body ctx.body

theorem Linked.of_bodies (env : Env) (s s' : Inner) (h : Linked env s)
    (hbody : ∀ id, (s'.byCtx.get? id).map (·.body) = (s.byCtx.get? id).map (·.body)) : Linked env s' := by
  intro id ctx prev hget hsup
  have hid := hbody id
  rw [hget, Option.map_some, eq_comm, Option.map_eq_some_iff] at hid
  obtain ⟨old, hold, heq⟩ := hid
  obtain ⟨prevOld, hprevOld, hfollows⟩ := h id old prev hold (by rw [heq]; exact hsup)
  have hp := hbody prev
  rw [hprevOld, Option.map_some, Option.map_eq_some_iff] at hp
  obtain ⟨prevCtx, hprevCtx, hprevBody⟩ := hp
  exact ⟨prevCtx, hprevCtx, by rw [hprevBody, ← heq]; exact hfollows⟩

theorem Linked.publish (env : Env) (s : Inner) (h : Linked env s) (commit : PublishCommit) (now : DateTime)
    (body : Body) (registryReceipt : Option Json) (hfresh : s.byCtx.get? body.ctxId = none)
    (hnew : ∀ prev, body.supersedes = some prev →
      ∃ prevCtx, s.byCtx.get? prev = some prevCtx ∧ Follows env prevCtx.body body) :
    Linked env (s.publish commit now body registryReceipt) := by
  have hkept : ∀ id old, s.byCtx.get? id = some old → ∃ ctx,
      (s.publish commit now body registryReceipt).byCtx.get? id = some ctx ∧ ctx.body = old.body := by
    intro id old hold
    have hne : id ≠ body.ctxId := by
      rintro rfl
      rw [hfresh] at hold
      cases hold
    have hmap := publish_get?_body (s := s) commit now body registryReceipt id hne
    rw [hold, Option.map_some, Option.map_eq_some_iff] at hmap
    exact hmap
  have hlink : ∀ b : Body, (∀ prev, b.supersedes = some prev →
      ∃ prevCtx, s.byCtx.get? prev = some prevCtx ∧ Follows env prevCtx.body b) →
      ∀ prev, b.supersedes = some prev → ∃ prevCtx,
        (s.publish commit now body registryReceipt).byCtx.get? prev = some prevCtx ∧
          Follows env prevCtx.body b := by
    intro b hb prev hprev
    obtain ⟨prevOld, hprevOld, hfollows⟩ := hb prev hprev
    obtain ⟨prevCtx, hprevCtx, hbody⟩ := hkept prev prevOld hprevOld
    exact ⟨prevCtx, hprevCtx, by rw [hbody]; exact hfollows⟩
  intro id ctx prev hget hsup
  by_cases hid : id = body.ctxId
  · have hbody : ctx.body = body := by
      rw [hid, publish_get?, if_pos rfl, Option.map_some] at hget
      obtain rfl := Option.some.inj hget
      split_ifs <;> rfl
    rw [hbody] at hsup ⊢
    exact hlink body hnew prev hsup
  · have hmap := publish_get?_body (s := s) commit now body registryReceipt id hid
    rw [hget, Option.map_some, eq_comm, Option.map_eq_some_iff] at hmap
    obtain ⟨old, hold, heq⟩ := hmap
    rw [← heq] at hsup ⊢
    exact hlink old.body (fun prev hprev => h id old prev hold hprev) prev hsup

section Runs

variable (env : PublishEnv) (server : PublishServer)
    (hgate : keyRevocationGateApplies server.caps.acdpVersion = true)

include hgate

theorem runAdmission_follows (commit : PublishCommit) (prev : Body) (id : CtxId)
    (hhook : commit.predecessorAdmission = server.admissionHook env commit.req)
    (hsup : commit.req.supersedes = some id) (h : runAdmission commit prev = .ok ()) (ctxId : CtxId)
    (lineageId : LineageId) (now : DateTime) :
    Follows env.toEnv prev (Body.fromPublishRequest commit.req ctxId lineageId commit.authority now) := by
  have hon : keyRevocationGateApplies server.caps.acdpVersion ∧ commit.req.supersedes.isSome := by
    rw [hsup]
    exact ⟨hgate, rfl⟩
  rw [runAdmission, hhook, PublishServer.admissionHook, if_pos hon] at h
  exact checkRevocationSupersession_follows env.toEnv prev commit.req _ h ctxId lineageId _ now

theorem linked_apply (call : StoreCall) (s : Inner) (hcall : Gated env server call) (h : Linked env.toEnv s) :
    Linked env.toEnv (call.apply env.sha256 s).2 := by
  cases call with
  | commitPublish commit now uuid =>
    rw [StoreCall.apply]
    obtain ⟨o, -, heq⟩ | ⟨e, -, -, heq⟩ | ⟨body, receipt, -, hprep, heq⟩ :=
      commitPublish_cases env.sha256 commit now uuid s
    · rw [heq]
      exact h
    · rw [heq]
      exact h
    · rw [heq]
      obtain ⟨first, lineageId, hfirst, -, rfl, hfresh, -⟩ := preparePublish_ok _ _ _ _ _ _ _ hprep
      refine Linked.publish env.toEnv s h commit now _ receipt hfresh ?_
      intro prev hprev
      obtain ⟨hnone, -⟩ | ⟨prev', prevCtx, hsup, hget, -, -, -, -, hadm, -⟩ :=
        firstV1_ok s commit first hfirst
      · have hsome : commit.req.supersedes = some prev := hprev
        rw [hnone] at hsome
        cases hsome
      · obtain rfl : prev' = prev := Option.some.inj (hsup.symm.trans hprev)
        exact ⟨prevCtx, hget, runAdmission_follows env server hgate commit prevCtx.body prev'
          hcall.2.2 hsup hadm _ _ _⟩
  | markSuperseded ctxId => exact hcall.elim
  | commitLifecycleEvent event now =>
    rw [StoreCall.apply]
    obtain ⟨e, heq⟩ | ⟨ctx, -, -, heq⟩ | ⟨ctx, -, -, -, heq⟩ := commitLifecycleEvent_cases event now s
    · rw [heq]
      exact h
    · rw [heq]
      exact h
    · rw [heq]
      refine Linked.of_bodies env.toEnv s _ h ?_
      intro id
      change (((s.byCtx.setState event.ctxId (appendEvent event))).get? id).map _ = _
      rw [ContextTable.get?_setState]
      split_ifs
      · rw [Option.map_map]
        rfl
      · rfl

theorem linked_run (calls : List StoreCall) (hcalls : ∀ call ∈ calls, Gated env server call) :
    Linked env.toEnv (runCalls env.sha256 calls Inner.new) := by
  refine runState_invariant (StoreCall.apply env.sha256) (Gated env server) _ ?_ calls _ hcalls ?_
  · intro call s hcall h
    exact linked_apply env server hgate call s hcall h
  · intro id ctx prev hget
    simp [Inner.new, ContextTable.get?_empty] at hget

end Runs

section Lineages

variable {derive : CtxId → LineageId} {s : Inner} {lineageId : LineageId} {ids : List CtxId}

theorem getElem?_filterMap_of_isSome {α β : Type} (f : α → Option β) (l : List α) (h : ∀ a ∈ l, (f a).isSome)
    (i : ℕ) : (l.filterMap f)[i]? = l[i]?.bind f := by
  induction l generalizing i with
  | nil => simp
  | cons a l ih =>
    obtain ⟨b, hb⟩ := Option.isSome_iff_exists.mp (h a List.mem_cons_self)
    rw [List.filterMap_cons_some hb]
    cases i with
    | zero => simp [hb]
    | succ i => simpa using ih (fun a ha => h a (List.mem_cons_of_mem _ ha)) i

theorem lineage_getElem? (h : LineageList derive s lineageId ids) (hids : s.lineages[lineageId]? = some ids)
    (now : DateTime) (i : ℕ) (ctx : FullContext) (hget : (lineage s lineageId now)[i]? = some ctx) :
    ∃ id stored, ids[i]? = some id ∧ s.byCtx.get? id = some stored ∧ ctx = projectContext stored now := by
  rw [lineage, hids] at hget
  dsimp only at hget
  rw [getElem?_filterMap_of_isSome] at hget
  · obtain ⟨id, hid, hmap⟩ := Option.bind_eq_some_iff.mp hget
    obtain ⟨stored, hstored, rfl⟩ := Option.map_eq_some_iff.mp hmap
    exact ⟨id, stored, hid, hstored, rfl⟩
  · intro id hid
    obtain ⟨stored, hstored, -⟩ := h.mem_stored id hid
    rw [hstored]
    rfl

theorem follows_of_linked (env : Env) (h : LineageList derive s lineageId ids) (hlinked : Linked env s)
    (i : ℕ) (id id' : CtxId) (a b : FullContext) (hi : ids[i]? = some id) (hi' : ids[i + 1]? = some id')
    (ha : s.byCtx.get? id = some a) (hb : s.byCtx.get? id' = some b) : Follows env a.body b.body := by
  obtain ⟨b', hb', -, -, hsup, -⟩ := h.stored (i + 1) id' hi'
  obtain rfl : b' = b := Option.some.inj (hb'.symm.trans hb)
  rw [if_neg (Nat.succ_ne_zero i), Nat.add_sub_cancel, hi] at hsup
  obtain ⟨a', ha', hfollows⟩ := hlinked id' b' id hb hsup
  obtain rfl : a' = a := Option.some.inj (ha'.symm.trans ha)
  exact hfollows

theorem signerClass_of_linked (env : Env) (h : LineageList derive s lineageId ids) (hlinked : Linked env s)
    (i k : ℕ) (id id' : CtxId) (a b : FullContext) (r : KeyRevocation) (hi : ids[i]? = some id)
    (hk : ids[i + k]? = some id') (ha : s.byCtx.get? id = some a) (hb : s.byCtx.get? id' = some b)
    (hr : KeyRevocation.fromBody env a.body = .ok r) :
    ∃ r', KeyRevocation.fromBody env b.body = .ok r' ∧ r'.trustClass = r.trustClass := by
  induction k generalizing id' b with
  | zero =>
    obtain rfl : id = id' := Option.some.inj (hi.symm.trans hk)
    obtain rfl : a = b := Option.some.inj (ha.symm.trans hb)
    exact ⟨r, hr, rfl⟩
  | succ k ih =>
    obtain ⟨mid, hmid⟩ : ∃ mid, ids[i + k]? = some mid := by
      obtain ⟨hlt, -⟩ := List.getElem?_eq_some_iff.mp hk
      exact ⟨_, List.getElem?_eq_getElem (by omega)⟩
    obtain ⟨m, hm, -⟩ := h.mem_stored mid (List.mem_of_getElem? hmid)
    obtain ⟨rm, hrm, hclass⟩ := ih mid m hmid hm
    obtain ⟨r', hr', hclass'⟩ :=
      (follows_of_linked env h hlinked (i + k) mid id' m b hmid hk hm hb).signerClass rm hrm
    exact ⟨r', hr', hclass'.trans hclass⟩

end Lineages

theorem revocation_lineage_kept (env : PublishEnv) (server : PublishServer)
    (hgate : keyRevocationGateApplies server.caps.acdpVersion = true) (calls : List ServerCall)
    (hsha : Set.InjOn (fun c => env.sha256 (utf8 c)) {c | ∃ call ∈ calls, call.minted server = some c})
    (s : Inner) (hs : s = (runServer env server calls).store) (lineageId : LineageId) (now : DateTime)
    (versions : List FullContext) (hversions : versions = lineage s lineageId now) :
    (∀ (i : ℕ) (a : FullContext), versions[i]? = some a → a.body.version.toNat = i + 1 ∧
      a.body.lineageId = lineageId) ∧
    (∀ (i : ℕ) (a b : FullContext), versions[i]? = some a → versions[i + 1]? = some b →
      (a.body.contextType.isKeyRevocation → b.body.contextType.isKeyRevocation) ∧
      ∀ r, KeyRevocation.fromBody env.toEnv a.body = .ok r →
        ∃ r', KeyRevocation.fromBody env.toEnv b.body = .ok r' ∧ r'.trustClass = r.trustClass) ∧
    (∀ (i : ℕ) (a : FullContext) (r : KeyRevocation), versions[i]? = some a →
        KeyRevocation.fromBody env.toEnv a.body = .ok r →
      (∀ (j : ℕ) (b : FullContext), i ≤ j → versions[j]? = some b → b.body.contextType.isKeyRevocation ∧
        ∃ r', KeyRevocation.fromBody env.toEnv b.body = .ok r' ∧ r'.trustClass = r.trustClass) ∧
      ∀ head, current s lineageId now = some head → head.body.contextType.isKeyRevocation ∧
        ∃ r', KeyRevocation.fromBody env.toEnv head.body = .ok r' ∧ r'.trustClass = r.trustClass) := by
  obtain ⟨storeCalls, hstore, hgated⟩ := runServer_store env server calls
  have hinv := lineageInvariant_run env.sha256 storeCalls
    (fun call hcall => gated_validated env server call (hgated call hcall).1)
    (hsha.mono (fun c ⟨call, hcall, hc⟩ => (hgated call hcall).2 c hc))
  have hlinked := linked_run env server hgate storeCalls (fun call hcall => (hgated call hcall).1)
  rw [← hstore, ← hs] at hinv hlinked
  subst hversions
  cases hids : s.lineages[lineageId]? with
  | none =>
    have hempty : lineage s lineageId now = [] := by rw [lineage, hids]
    rw [hempty]
    have hnone (i : ℕ) (a : FullContext) : ([] : List FullContext)[i]? ≠ some a := by simp
    exact ⟨fun i a ha => absurd ha (hnone i a), fun i a b ha => absurd ha (hnone i a),
      fun i a r ha => absurd ha (hnone i a)⟩
  | some ids =>
    have hlist := hinv.lists lineageId ids hids
    refine ⟨?_, ?_, ?_⟩
    · intro i a ha
      obtain ⟨id, stored, hi, hget, rfl⟩ := lineage_getElem? hlist hids now i a ha
      obtain ⟨stored', hget', hversion, hl, -, -⟩ := hlist.stored i id hi
      obtain rfl : stored' = stored := Option.some.inj (hget'.symm.trans hget)
      exact ⟨hversion, hl⟩
    · intro i a b ha hb
      obtain ⟨id, a, hi, hgeta, rfl⟩ := lineage_getElem? hlist hids now i a ha
      obtain ⟨id', b, hi', hgetb, rfl⟩ := lineage_getElem? hlist hids now (i + 1) b hb
      have hfollows := follows_of_linked env.toEnv hlist hlinked i id id' a b hi hi' hgeta hgetb
      exact ⟨hfollows.type, hfollows.signerClass⟩
    · intro i a r ha hr
      obtain ⟨id, a, hi, hgeta, rfl⟩ := lineage_getElem? hlist hids now i a ha
      have hfrom : ∀ (j : ℕ) (id' : CtxId) (b : FullContext), i ≤ j → ids[j]? = some id' →
          s.byCtx.get? id' = some b → b.body.contextType.isKeyRevocation ∧
          ∃ r', KeyRevocation.fromBody env.toEnv b.body = .ok r' ∧ r'.trustClass = r.trustClass := by
        intro j id' b hj hj' hgetb
        obtain ⟨k, rfl⟩ := Nat.exists_eq_add_of_le hj
        obtain ⟨r', hr', hclass⟩ :=
          signerClass_of_linked env.toEnv hlist hlinked i k id id' a b r hi hj' hgeta hgetb hr
        exact ⟨(fromBody_reads env.toEnv b.body r' hr').1, r', hr', hclass⟩
      refine ⟨?_, ?_⟩
      · intro j b hj hb
        obtain ⟨id', b, hj', hgetb, rfl⟩ := lineage_getElem? hlist hids now j b hb
        exact hfrom j id' b hj hj' hgetb
      · intro head hhead
        obtain ⟨init, c, ctx, rfl, hget, hstatus, hinit⟩ := hlist.exists_head
        rw [current_of_head init c ctx now hids hget hstatus hinit] at hhead
        split_ifs at hhead
        obtain rfl := Option.some.inj hhead
        obtain ⟨hlt, -⟩ := List.getElem?_eq_some_iff.mp hi
        refine hfrom init.length c ctx ?_ (by simp) hget
        rw [List.length_append, List.length_singleton] at hlt
        omega

section Sample

def revisedRevocation : PublishRequest :=
  { sampleRevocation with
    version := 2
    supersedes := some sampleCtx1
    contentHash := "sha256:063913b7259301744affa1d8cc9caff38fec2fb25bc5cac88ccb9204cc2f6389" }

def revisedCalls : List ServerCall :=
  revocationCalls ++ [.prove ⟨revisedRevocation, .ok (), .pinned pinnedKeyB64 "ed25519"⟩,
    .commit 0 none none (sampleInstant 1) sampleUuid2]

theorem revisedRevocation_hash :
    computeContentHash revocationEnv.toEnv (revisedRevocation.toValue revocationEnv.toWireEnv) =
      .ok revisedRevocation.contentHash := by
  decide +kernel

theorem revisedRevocation_validated :
    revocationServer.validate revocationEnv revisedRevocation (.ok ()) =
      .ok ⟨revisedRevocation.contentHash⟩ :=
  revocationServer.validate_of_hash revocationEnv revisedRevocation _ rfl (by decide +kernel) (by decide) rfl
    revisedRevocation_hash (by decide +kernel) (by decide +kernel) (by decide +kernel) rfl
    (by decide +kernel)

def provenRevision : Proven :=
  ⟨revisedRevocation, provenRevocation.fingerprint, revisedRevocation.contentHash, "registry.example.com"⟩

theorem revisedRevocation_proves :
    ProveCall.prove revocationEnv revocationServer
      ⟨revisedRevocation, .ok (), .pinned pinnedKeyB64 "ed25519"⟩ = .ok provenRevision :=
  pinned_proves _ _ revisedRevocation pinnedKeyB64 "ed25519" _ _ revisedRevocation_validated
    (by decide +kernel)

theorem revisedCalls_store : (runServer revocationEnv revocationServer revisedCalls).store =
    (revocationServer.commitProven revocationEnv provenRevision none none (sampleInstant 1) sampleUuid2
      (revocationServer.commitProven revocationEnv provenRevocation none none (sampleInstant 0) sampleUuid1
        Inner.new).2).2 := by
  obtain ⟨st, hnone, hstore, hrun⟩ := runState_publish revocationEnv revocationServer _ _
    revocationProve_proves none none (sampleInstant 0) sampleUuid1
    [.prove ⟨revisedRevocation, .ok (), .pinned pinnedKeyB64 "ed25519"⟩,
      .commit 0 none none (sampleInstant 1) sampleUuid2] ServerState.new rfl
  obtain ⟨st', -, hstore', hrun'⟩ := runState_publish revocationEnv revocationServer _ _
    revisedRevocation_proves none none (sampleInstant 1) sampleUuid2 [] st hnone
  rw [runServer, revisedCalls, revocationCalls, List.cons_append, List.cons_append, List.nil_append, hrun,
    hrun', runState, hstore', hstore, ServerState.new]

theorem revisedCalls_injOn : Set.InjOn (fun c => revocationEnv.sha256 (utf8 c))
    {c | ∃ call ∈ revisedCalls, call.minted revocationServer = some c} := by
  have hmem : {c | ∃ call ∈ revisedCalls, call.minted revocationServer = some c} ⊆
      {sampleCtx1, sampleCtx2} := by
    rintro c ⟨call, hcall, hc⟩
    simp only [revisedCalls, revocationCalls, List.cons_append, List.nil_append, List.mem_cons,
      List.not_mem_nil, or_false] at hcall
    rcases hcall with rfl | rfl | rfl | rfl
    · cases hc
    · exact .inl (Option.some.inj hc).symm
    · cases hc
    · exact .inr (Option.some.inj hc).symm
  have hne : revocationEnv.sha256 (utf8 sampleCtx1) ≠ revocationEnv.sha256 (utf8 sampleCtx2) := by
    decide +kernel
  have hpair : Set.InjOn (fun c => revocationEnv.sha256 (utf8 c)) {sampleCtx1, sampleCtx2} :=
    Set.injOn_pair.mpr (fun heq => absurd heq hne)
  exact hpair.mono hmem

theorem revisedCalls_parsed :
    ((lineage (runServer revocationEnv revocationServer revisedCalls).store
      (deriveLineageId revocationSha256 sampleCtx1) (sampleInstant 2))[0]?).map
        (fun ctx => KeyRevocation.fromBody revocationEnv.toEnv ctx.body) = some (.ok parsedRevocation) := by
  rw [revisedCalls_store]
  decide +kernel

theorem revisedCalls_head :
    (current (runServer revocationEnv revocationServer revisedCalls).store
      (deriveLineageId revocationSha256 sampleCtx1) (sampleInstant 2)).map (fun ctx => ctx.body.ctxId) =
      some sampleCtx2 := by
  rw [revisedCalls_store]
  decide +kernel

theorem sampleRevocation_head_kept :
    ∃ first head, (lineage (runServer revocationEnv revocationServer revisedCalls).store
        (deriveLineageId revocationSha256 sampleCtx1) (sampleInstant 2))[0]? = some first ∧
      KeyRevocation.fromBody revocationEnv.toEnv first.body = .ok parsedRevocation ∧
      current (runServer revocationEnv revocationServer revisedCalls).store
        (deriveLineageId revocationSha256 sampleCtx1) (sampleInstant 2) = some head ∧
      head.body.ctxId = sampleCtx2 ∧ head.body.contextType.isKeyRevocation ∧
      ∃ r', KeyRevocation.fromBody revocationEnv.toEnv head.body = .ok r' ∧
        r'.trustClass = parsedRevocation.trustClass := by
  obtain ⟨head, hhead, hid⟩ := Option.map_eq_some_iff.mp revisedCalls_head
  obtain ⟨first, hfirst, hparsed⟩ := Option.map_eq_some_iff.mp revisedCalls_parsed
  obtain ⟨-, hkept⟩ := (revocation_lineage_kept revocationEnv revocationServer (by decide +kernel)
    revisedCalls revisedCalls_injOn _ rfl (deriveLineageId revocationSha256 sampleCtx1) (sampleInstant 2)
    _ rfl).2.2 0 first parsedRevocation hfirst hparsed
  exact ⟨first, head, hfirst, hparsed, hhead, hid, hkept head hhead⟩

end Sample

end Acdp.Registry.Server
