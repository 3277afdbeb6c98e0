import Acdp.Registry.RevocationLineage

namespace Acdp.Registry.Server

open Acdp.Types
open Acdp.Crypto
open Acdp.Foundation.Entries (bind_ok guard_ok_iff)
open Acdp.Foundation.Transition
open Acdp.Registry.Store
open Acdp.Validation (PublishEnv validatePublishRequest)

section Shaped

variable (env : PublishEnv) (server : PublishServer)

/-- A context type whose shape is checked: of a key revocation, and not the interim one that a registry
below 0.5.0 takes as an opaque custom type. -/
def ShapeChecked (t : ContextType) : Prop :=
  t.isKeyRevocation ∧
    (isInterimKeyRevocationForm t = true → keyRevocationRetirementGateApplies server.caps.acdpVersion = true)

def AllParse (s : Inner) : Prop :=
  ∀ id ctx, s.byCtx.get? id = some ctx → ShapeChecked server ctx.body.contextType →
    ∃ r, KeyRevocation.fromBody env.toEnv ctx.body = .ok r

variable (hgate : keyRevocationGateApplies server.caps.acdpVersion = true)

include hgate

theorem validated_parses (req : PublishRequest) (rateLimit : Except AcdpError Unit)
    (validated : ValidatedPublish) (hvalidated : server.validate env req rateLimit = .ok validated)
    (htype : ShapeChecked server req.contextType) : ∃ r, KeyRevocation.fromPublishRequest env.toEnv req =
      .ok r := by
  have hcheck := (validate_ok env server req rateLimit validated hvalidated).2
  rw [PublishValidator.checkKeyRevocation] at hcheck
  simp only [guard_ok_iff, hgate, and_true] at hcheck
  obtain ⟨hretired, hcheck⟩ := hcheck
  obtain hstandard | hinterim := isKeyRevocation_cases req.contextType htype.1
  · have hnot : ¬ isInterimKeyRevocationForm req.contextType = true := by
      rw [hstandard]
      decide
    rw [if_neg hnot, if_pos hstandard] at hcheck
    obtain ⟨r, hr, -⟩ := bind_ok _ _ _ hcheck
    exact ⟨r, hr⟩
  · exact absurd ⟨hinterim, htype.2 hinterim⟩ hretired

omit hgate

theorem AllParse.publish (s : Inner) (h : AllParse env server s) (commit : PublishCommit)
    (now : DateTime) (body : Body) (receipt : Option Json)
    (hbody : ShapeChecked server body.contextType → ∃ r, KeyRevocation.fromBody env.toEnv body = .ok r) :
    AllParse env server (s.publish commit now body receipt) := by
  intro id ctx hget htype
  by_cases hid : id = body.ctxId
  · have hstored : ctx.body = body := by
      rw [hid, publish_get?, if_pos rfl, Option.map_some] at hget
      obtain rfl := Option.some.inj hget
      split_ifs <;> rfl
    rw [hstored] at htype ⊢
    exact hbody htype
  · have hmap := publish_get?_body (s := s) commit now body receipt id hid
    rw [hget, Option.map_some, eq_comm, Option.map_eq_some_iff] at hmap
    obtain ⟨old, hold, heq⟩ := hmap
    rw [← heq] at htype ⊢
    exact h id old hold htype

include hgate

theorem AllParse.commitPublish (s : Inner) (h : AllParse env server s) (commit : PublishCommit)
    (now : DateTime) (uuid : String) (rateLimit : Except AcdpError Unit) (validated : ValidatedPublish)
    (hvalidated : server.validate env commit.req rateLimit = .ok validated) :
    AllParse env server (Store.commitPublish env.sha256 commit now uuid s).2 := by
  obtain ⟨o, -, heq⟩ | ⟨e, -, -, heq⟩ | ⟨body, receipt, -, hprep, heq⟩ :=
    commitPublish_cases env.sha256 commit now uuid s
  · rw [heq]
    exact h
  · rw [heq]
    exact h
  · rw [heq]
    obtain ⟨first, lineageId, -, -, rfl, -, -⟩ := preparePublish_ok _ _ _ _ _ _ _ hprep
    refine h.publish env server s commit now _ receipt (fun htype => ?_)
    obtain ⟨r, hr⟩ := validated_parses env server hgate commit.req rateLimit validated hvalidated htype
    exact ⟨_, by rw [fromBody_fromPublishRequest, hr]; rfl⟩

omit hgate

theorem AllParse.lifecycle (s : Inner) (h : AllParse env server s) (event : LifecycleEvent) (now : DateTime) :
    AllParse env server (Store.commitLifecycleEvent event now s).2 := by
  obtain ⟨e, heq⟩ | ⟨ctx, -, -, heq⟩ | ⟨ctx, -, -, -, heq⟩ := commitLifecycleEvent_cases event now s
  · rw [heq]
    exact h
  · rw [heq]
    exact h
  · rw [heq]
    intro id ctx hget htype
    change (s.byCtx.setState event.ctxId (appendEvent event)).get? id = some ctx at hget
    rw [ContextTable.get?_setState] at hget
    split_ifs at hget
    · obtain ⟨old, hold, rfl⟩ := Option.map_eq_some_iff.mp hget
      exact h id old hold htype
    · exact h id ctx hget htype

structure ShapedState (st : ServerState) : Prop where
  held : ∀ entry ∈ st.proven, entry.1.prove env server = .ok entry.2
  stored : AllParse env server st.store

include hgate

theorem shapedState_apply (call : ServerCall) (st : ServerState) (h : ShapedState env server st) :
    ShapedState env server (call.apply env server st).2 := by
  cases call with
  | prove call =>
    rw [ServerCall.apply]
    cases hprove : call.prove env server with
    | error e => exact h
    | ok proven =>
      refine ⟨?_, h.stored⟩
      intro entry hentry
      rcases List.mem_append.mp hentry with hold | hnew
      · exact h.held entry hold
      · obtain rfl := List.mem_singleton.mp hnew
        exact hprove
  | commit index idempotencyKey tenant now uuid =>
    rw [ServerCall.apply]
    cases hproven : st.proven[index]? with
    | none => exact h
    | some entry =>
      obtain ⟨hreq, validated, hvalidated⟩ :=
        prove_ok env server _ _ (h.held entry (List.mem_of_getElem? hproven))
      refine ⟨fun other hother => h.held other (List.mem_of_mem_eraseIdx hother), ?_⟩
      dsimp only
      rw [commitProven_store]
      split_ifs
      · exact h.stored
      · rw [← hreq] at hvalidated
        exact h.stored.commitPublish env server hgate st.store _ now uuid _ validated hvalidated
  | publishUnverified req rateLimit idempotencyKey tenant now uuid =>
    rw [ServerCall.apply]
    refine ⟨h.held, ?_⟩
    dsimp only
    rw [publishUnverified_store]
    split_ifs with hskip
    · exact h.stored
    · rw [not_or, not_not] at hskip
      cases hvalidate : server.validate env req rateLimit with
      | error e =>
        rw [hvalidate] at hskip
        cases hskip.2
      | ok validated =>
        exact h.stored.commitPublish env server hgate st.store _ now uuid rateLimit validated hvalidate
  | lifecycle event now => exact ⟨h.held, h.stored.lifecycle env server st.store event now⟩

/-- In every run each stored revocation whose shape is checked parses, and superseding one is allowed
within its signer class only: an unparsable predecessor is of the interim type, on a registry below 0.5.0. -/
theorem stored_revocations_parse (calls : List ServerCall) (id : CtxId) (ctx : FullContext)
    (hget : (runServer env server calls).store.byCtx.get? id = some ctx)
    (htype : ShapeChecked server ctx.body.contextType) :
    ∃ r, KeyRevocation.fromBody env.toEnv ctx.body = .ok r ∧
      ∀ req, checkRevocationSupersession env.toEnv ctx.body req server.caps.acdpVersion = .ok () →
        ∃ r', KeyRevocation.fromPublishRequest env.toEnv req = .ok r' ∧ r'.trustClass = r.trustClass := by
  have hrun : ShapedState env server (runServer env server calls) := by
    refine runState_invariant (ServerCall.apply env server) (fun _ => True) _ ?_ calls ServerState.new
      (fun _ _ => trivial) ⟨?_, ?_⟩
    · exact fun call st _ h => shapedState_apply env server hgate call st h
    · intro entry hentry
      exact absurd hentry List.not_mem_nil
    · intro id ctx hget
      simp [ServerState.new, Inner.new, ContextTable.get?_empty] at hget
  obtain ⟨r, hr⟩ := hrun.stored id ctx hget htype
  refine ⟨r, hr, fun req hreq => ?_⟩
  unfold checkRevocationSupersession at hreq
  rw [if_neg (not_not.mpr htype.1)] at hreq
  split at hreq
  · split at hreq <;> cases hreq
  · rw [hr] at hreq
    obtain ⟨incoming, hincoming, hreq⟩ := bind_ok _ _ _ hreq
    split at hreq
    next hclass => exact ⟨incoming, hincoming, hclass.symm⟩
    next => cases hreq

end Shaped

section Sample

theorem sampleRevocation_stays_parsable : ∃ r,
    KeyRevocation.fromBody revocationEnv.toEnv storedRevocation.body = .ok r ∧
      ∀ req, checkRevocationSupersession revocationEnv.toEnv storedRevocation.body req "0.4.0" = .ok () →
        ∃ r', KeyRevocation.fromPublishRequest revocationEnv.toEnv req = .ok r' ∧
        r'.trustClass = r.trustClass := by
  refine stored_revocations_parse revocationEnv revocationServer (by decide +kernel)
    revocationCalls sampleCtx1 storedRevocation revocationCalls_stored ⟨rfl, ?_⟩
  decide +kernel

def interimText : String :=
  "\x7b\"agent_id\":\"did:web:agents.example.com:alice\",\"contributors\":[],\"data_refs\":[]," ++
  "\"derived_from\":[],\"supersedes\":null,\"title\":\"Key compromise\"," ++
  "\"type\":\"acdp:key-revocation\",\"version\":1,\"visibility\":\"public\"\x7d"

def interimEnv : PublishEnv :=
  { revocationEnv with
    canonicalize := fun _ => .ok (utf8 interimText)
    sha256 := fun bytes => if bytes = utf8 interimText then
        #v[135, 57, 189, 134, 159, 146, 174, 174, 129, 128, 232, 43, 112, 207, 198, 73, 40, 133, 233,
        28, 97, 40, 16, 7, 229, 201, 63, 212, 78, 2, 85, 166]
      else revocationSha256 bytes
    toVecLen := fun _ => 520 }

def interimRequest : PublishRequest :=
  { sampleRequest 1 none "sha256:8739bd869f92aeae8180e82b70cfc6492885e91c61281007e5c93fd44e0255a6" with
    title := "Key compromise"
    contextType := .custom keyRevocationInterim
    signature := ⟨"ed25519", "did:web:agents.example.com:alice#key-2",
      "8vhXust4UiLYrxwaNL2wwQsDjN0K0pe1UfBDujM+zSFHe2lSmu771/yFQ4wxuSl0rt+EPPVG8hhgctA1Bo+2Bg=="⟩ }

def interimCalls : List ServerCall :=
  [.prove ⟨interimRequest, .ok (), .pinned pinnedKeyB64 "ed25519"⟩,
    .commit 0 none none (sampleInstant 0) sampleUuid1]

def storedInterim : FullContext :=
  storedContext (Body.fromPublishRequest interimRequest sampleCtx1
    (deriveLineageId revocationSha256 sampleCtx1) "registry.example.com" (sampleInstant 0)) none

theorem interimRequest_hash : computeContentHash interimEnv.toEnv
    (interimRequest.toValue interimEnv.toWireEnv) = .ok interimRequest.contentHash := by
  decide +kernel

theorem interimRequest_validated :
    revocationServer.validate interimEnv interimRequest (.ok ()) = .ok ⟨interimRequest.contentHash⟩ :=
  revocationServer.validate_of_hash interimEnv interimRequest _ rfl (by decide +kernel) (by decide) rfl
    interimRequest_hash (by decide +kernel) (by decide +kernel) (by decide +kernel) rfl (by decide +kernel)

def provenInterim : Proven :=
  ⟨interimRequest, some "sha256:139e3940e64b5491722088d9a0d741628fc826e09475d341a780acde3c4b8070",
    interimRequest.contentHash, "registry.example.com"⟩

theorem interimCalls_stored :
    (runServer interimEnv revocationServer interimCalls).store.byCtx.get? sampleCtx1 =
      some storedInterim := by
  have hproves : ProveCall.prove interimEnv revocationServer
      ⟨interimRequest, .ok (), .pinned pinnedKeyB64 "ed25519"⟩ = .ok provenInterim :=
    pinned_proves _ _ interimRequest pinnedKeyB64 "ed25519" _ _ interimRequest_validated (by decide +kernel)
  have hstore : (runServer interimEnv revocationServer interimCalls).store =
      (revocationServer.commitProven interimEnv provenInterim none none (sampleInstant 0) sampleUuid1
        Inner.new).2 := by
    obtain ⟨st, -, hstore, hrun⟩ := runState_publish interimEnv revocationServer _ _ hproves none none
      (sampleInstant 0) sampleUuid1 [] ServerState.new rfl
    rw [runServer, interimCalls, hrun, runState, hstore, ServerState.new]
  rw [hstore]
  decide +kernel

theorem interim_revocation_unparsable :
    (runServer interimEnv revocationServer interimCalls).store.byCtx.get? sampleCtx1 = some storedInterim ∧
      storedInterim.body.contextType.isKeyRevocation ∧
      (∀ r, KeyRevocation.fromBody interimEnv.toEnv storedInterim.body ≠ .ok r) ∧
      ∀ req, req.contextType.isKeyRevocation →
        checkRevocationSupersession interimEnv.toEnv storedInterim.body req "0.4.0" = .ok () := by
  have hparse : ∃ e, KeyRevocation.fromBody interimEnv.toEnv storedInterim.body = .error e := ⟨_, rfl⟩
  obtain ⟨e, he⟩ := hparse
  have htype : storedInterim.body.contextType.isKeyRevocation = true := rfl
  refine ⟨interimCalls_stored, htype, fun r hr => ?_, fun req hreq => ?_⟩
  · rw [he] at hr
    cases hr
  · rw [checkRevocationSupersession, if_neg (not_not.mpr htype), if_neg (not_not.mpr hreq), he]

end Sample

end Acdp.Registry.Server
