import Acdp.Registry.LineageHead
import Acdp.Registry.Publish

namespace Acdp.Registry.Server

open Acdp.Types
open Acdp.Crypto
open Acdp.Foundation.Entries (bind_ok seq_ok_iff discard_ok_iff)
open Acdp.Foundation.Transition
open Acdp.Registry.Store (Inner StoreCall PublishCommitOutcome LifecycleCommitOutcome mintedCtxId runCalls)
open Acdp.Validation

inductive ProvePath where
  | resolved (verifying fingerprinting : WebResolver)
  | didKey
  | pinned (publicKeyB64 algorithm : String)

structure ProveCall where
  req : PublishRequest
  rateLimit : Except AcdpError Unit
  path : ProvePath

inductive ServerCall where
  | prove (call : ProveCall)
  | commit (index : ℕ) (idempotencyKey tenant : Option String) (now : DateTime) (uuid : String)
  | publishUnverified (req : PublishRequest) (rateLimit : Except AcdpError Unit)
      (idempotencyKey tenant : Option String) (now : DateTime) (uuid : String)
  | lifecycle (event : LifecycleEvent) (now : DateTime)

inductive ServerReply where
  | proved (reply : Except AcdpError Unit)
  | noSuchProof
  | published (reply : Except AcdpError PublishCommitOutcome)
  | lifecycle (reply : Except AcdpError LifecycleCommitOutcome)

structure ServerState where
  store : Inner
  proven : List (ProveCall × Proven)
  origin : CtxId → Option ProveCall

def ServerState.new : ServerState where
  store := Inner.new
  proven := []
  origin := fun _ => none

section Steps

variable (env : PublishEnv) (server : PublishServer)

def ProveCall.prove (call : ProveCall) : Except AcdpError Proven :=
  match call.path with
  | .resolved verifying fingerprinting =>
    server.provePublishIdentity env call.req call.rateLimit verifying fingerprinting
  | .didKey => server.provePublishIdentityDidKey env call.req call.rateLimit
  | .pinned publicKeyB64 algorithm =>
    server.provePublishIdentityPinned env call.req call.rateLimit publicKeyB64 algorithm

/-- A context that the commit made appear is put down to the proof. -/
def recordOrigin (call : ProveCall) (id : CtxId) (before after : Inner) (origin : CtxId → Option ProveCall) :
    CtxId → Option ProveCall :=
  if (before.byCtx.get? id).isNone ∧ (after.byCtx.get? id).isSome then Function.update origin id (some call)
  else origin

def ServerCall.apply : ServerCall → ServerState → ServerReply × ServerState
  | .prove call, st =>
    match call.prove env server with
    | .error e => (.proved (.error e), st)
    | .ok proven => (.proved (.ok ()), { st with proven := st.proven ++ [(call, proven)] })
  | .commit index idempotencyKey tenant now uuid, st =>
    match st.proven[index]? with
    | none => (.noSuchProof, st)
    | some (call, proven) =>
      let result := server.commitProven env proven idempotencyKey tenant now uuid st.store
      (.published result.1,
        { store := result.2
          proven := st.proven.eraseIdx index
          origin := recordOrigin call (mintedCtxId server.authority uuid) st.store result.2 st.origin })
  | .publishUnverified req rateLimit idempotencyKey tenant now uuid, st =>
    let result := server.publishUnverifiedInTenantForTests env req rateLimit idempotencyKey tenant
      now uuid st.store
    (.published result.1, { st with store := result.2 })
  | .lifecycle event now, st =>
    let result := Store.commitLifecycleEvent event now st.store
    (.lifecycle result.1, { st with store := result.2 })

def runServer (calls : List ServerCall) : ServerState :=
  runState (ServerCall.apply env server) calls ServerState.new

def ServerCall.minted : ServerCall → Option CtxId
  | .commit _ _ _ _ uuid => some (mintedCtxId server.authority uuid)
  | .publishUnverified _ _ _ _ _ uuid => some (mintedCtxId server.authority uuid)
  | .prove _ | .lifecycle _ _ => none

/-- A store commit as this server makes it, of a request that passed `validate`. -/
def Gated : StoreCall → Prop
  | .commitPublish commit _ _ => commit.authority = server.authority ∧
      (∃ rateLimit validated, server.validate env commit.req rateLimit = .ok validated) ∧
      commit.predecessorAdmission = server.admissionHook env commit.req
  | .markSuperseded _ => False
  | .commitLifecycleEvent _ _ => True

end Steps

section Refinement

variable (env : PublishEnv) (server : PublishServer)

theorem validate_ok (req : PublishRequest) (rateLimit : Except AcdpError Unit) (validated : ValidatedPublish)
    (h : server.validate env req rateLimit = .ok validated) :
    validatePublishRequest env req = .ok () ∧
      PublishValidator.checkKeyRevocation env ⟨server.caps, some server.authority⟩ req = .ok () := by
  rw [PublishServer.validate, PublishValidator.validatePostSchema,
    PublishValidator.validateRegistryLimitsAndCrypto] at h
  simp only [seq_ok_iff, Foundation.Entries.guard_ok_iff] at h
  obtain ⟨-, hschema, -, -, -, -, -, -, -, hrevocation, -⟩ := h
  exact ⟨hschema, hrevocation⟩

theorem validatePublishRequest_version (req : PublishRequest) (h : validatePublishRequest env req = .ok ()) :
    validateVersion req = .ok () := by
  rw [validatePublishRequest] at h
  simp only [discard_ok_iff] at h
  obtain ⟨-, -, -, -, -, -, -, -, -, -, -, -, -, -, -, -, -, -, -, -, -, -, -, -, -, ⟨_, hversion⟩, -⟩ := h
  exact hversion

theorem prove_ok (call : ProveCall) (proven : Proven) (h : call.prove env server = .ok proven) :
    proven.req = call.req ∧ ∃ validated, server.validate env call.req call.rateLimit = .ok validated := by
  rw [ProveCall.prove] at h
  cases hpath : call.path with
  | resolved verifying fingerprinting =>
    rw [hpath] at h
    obtain ⟨validated, hvalidated, h⟩ := bind_ok _ _ _ h
    simp only [seq_ok_iff] at h
    obtain ⟨-, h⟩ := h
    obtain ⟨fp, -, h⟩ := bind_ok _ _ _ h
    obtain rfl := Except.ok.inj h
    exact ⟨rfl, validated, hvalidated⟩
  | didKey =>
    rw [hpath] at h
    obtain ⟨validated, hvalidated, h⟩ := bind_ok _ _ _ h
    simp only [seq_ok_iff] at h
    obtain ⟨-, h⟩ := h
    obtain ⟨fp, -, h⟩ := bind_ok _ _ _ h
    obtain rfl := Except.ok.inj h
    exact ⟨rfl, validated, hvalidated⟩
  | pinned publicKeyB64 algorithm =>
    rw [hpath] at h
    obtain ⟨validated, hvalidated, h⟩ := bind_ok _ _ _ h
    obtain ⟨fp, -, h⟩ := bind_ok _ _ _ h
    obtain rfl := Except.ok.inj h
    exact ⟨rfl, validated, hvalidated⟩

def ServerCall.issued (call : ServerCall) (st : ServerState) : List StoreCall :=
  match call with
  | .prove _ => []
  | .commit index idempotencyKey tenant now uuid =>
    match st.proven[index]? with
    | none => []
    | some (_, proven) =>
      if proven.authority ≠ server.authority ∨ server.receiptSigner.isSome ∧ proven.fingerprint.isNone then []
      else [.commitPublish (server.publishCommit env proven.req idempotencyKey tenant proven.fingerprint) now
        uuid]
  | .publishUnverified req rateLimit idempotencyKey tenant now uuid =>
    if server.receiptSigner.isSome ∨ ¬ (server.validate env req rateLimit).isOk then []
    else [.commitPublish (server.publishCommit env req idempotencyKey tenant none) now uuid]
  | .lifecycle event now => [.commitLifecycleEvent event now]

theorem commitProven_store (proven : Proven) (idempotencyKey tenant : Option String) (now : DateTime)
    (uuid : String) (s : Inner) :
    (server.commitProven env proven idempotencyKey tenant now uuid s).2 =
      if proven.authority ≠ server.authority ∨ server.receiptSigner.isSome ∧ proven.fingerprint.isNone then s
      else (Store.commitPublish env.sha256
        (server.publishCommit env proven.req idempotencyKey tenant proven.fingerprint) now uuid s).2 := by
  rw [PublishServer.commitProven]
  by_cases hauth : proven.authority ≠ server.authority
  · rw [if_pos hauth, if_pos (.inl hauth)]
  · rw [if_neg hauth]
    by_cases hfp : server.receiptSigner.isSome ∧ proven.fingerprint.isNone
    · rw [if_pos hfp, if_pos (.inr hfp)]
    · rw [if_neg hfp, if_neg (not_or.mpr ⟨hauth, hfp⟩)]
      rfl

theorem validate_rateLimited (req : PublishRequest) (e : AcdpError) :
    server.validate env req (.error e) = .error e := rfl

theorem publishUnverified_store (req : PublishRequest) (rateLimit : Except AcdpError Unit)
    (idempotencyKey tenant : Option String) (now : DateTime) (uuid : String) (s : Inner) :
    (server.publishUnverifiedInTenantForTests env req rateLimit idempotencyKey tenant now uuid s).2 =
      if server.receiptSigner.isSome ∨ ¬ (server.validate env req rateLimit).isOk then s
      else (Store.commitPublish env.sha256
        (server.publishCommit env req idempotencyKey tenant none) now uuid s).2 := by
  unfold PublishServer.publishUnverifiedInTenantForTests
  cases rateLimit with
  | error e => simp [validate_rateLimited, Except.isOk, Except.toBool]
  | ok u =>
    by_cases hsigner : server.receiptSigner.isSome
    · simp [hsigner]
    · cases hvalidate : server.validate env req (.ok ()) with
      | error e => simp [hsigner, Except.isOk, Except.toBool]
      | ok validated => simp [hsigner, Except.isOk, Except.toBool, PublishServer.commitViaStore]

theorem apply_store (call : ServerCall) (st : ServerState) :
    (call.apply env server st).2.store = runCalls env.sha256 (call.issued env server st) st.store := by
  cases call with
  | prove call =>
    rw [ServerCall.apply]
    cases call.prove env server with
    | error e => rfl
    | ok proven => rfl
  | commit index idempotencyKey tenant now uuid =>
    rw [ServerCall.apply, ServerCall.issued]
    cases hproven : st.proven[index]? with
    | none => rfl
    | some entry =>
      dsimp only
      rw [commitProven_store]
      split_ifs <;> rfl
  | publishUnverified req rateLimit idempotencyKey tenant now uuid =>
    rw [ServerCall.apply, ServerCall.issued]
    dsimp only
    rw [publishUnverified_store]
    split_ifs <;> rfl
  | lifecycle event now => rfl

def Held (st : ServerState) : Prop := ∀ entry ∈ st.proven, entry.1.prove env server = .ok entry.2

theorem held_apply (call : ServerCall) (st : ServerState) (h : Held env server st) :
    Held env server (call.apply env server st).2 := by
  cases call with
  | prove call =>
    rw [ServerCall.apply]
    cases hprove : call.prove env server with
    | error e => exact h
    | ok proven =>
      intro entry hentry
      rcases List.mem_append.mp hentry with hold | hnew
      · exact h entry hold
      · obtain rfl := List.mem_singleton.mp hnew
        exact hprove
  | commit index idempotencyKey tenant now uuid =>
    rw [ServerCall.apply]
    cases st.proven[index]? with
    | none => exact h
    | some entry => exact fun other hother => h other (List.mem_of_mem_eraseIdx hother)
  | publishUnverified req rateLimit idempotencyKey tenant now uuid => exact h
  | lifecycle event now => exact h

theorem issued_gated (call : ServerCall) (st : ServerState) (h : Held env server st) (storeCall : StoreCall)
    (hmem : storeCall ∈ call.issued env server st) :
    Gated env server storeCall ∧ ∀ c, storeCall.minted = some c → call.minted server = some c := by
  cases call with
  | prove call => cases hmem
  | commit index idempotencyKey tenant now uuid =>
    rw [ServerCall.issued] at hmem
    cases hproven : st.proven[index]? with
    | none =>
      rw [hproven] at hmem
      cases hmem
    | some entry =>
      rw [hproven] at hmem
      dsimp only at hmem
      split_ifs at hmem
      · cases hmem
      · obtain rfl := List.mem_singleton.mp hmem
        obtain ⟨hreq, validated, hvalidated⟩ :=
          prove_ok env server _ _ (h entry (List.mem_of_getElem? hproven))
        refine ⟨⟨rfl, ⟨entry.1.rateLimit, validated, ?_⟩, rfl⟩, fun c hc => hc⟩
        change server.validate env entry.2.req _ = _
        rw [hreq]
        exact hvalidated
  | publishUnverified req rateLimit idempotencyKey tenant now uuid =>
    rw [ServerCall.issued] at hmem
    split_ifs at hmem with hc
    · cases hmem
    · obtain rfl := List.mem_singleton.mp hmem
      rw [not_or, not_not] at hc
      cases hvalidate : server.validate env req rateLimit with
      | error e =>
        rw [hvalidate] at hc
        cases hc.2
      | ok validated => exact ⟨⟨rfl, ⟨rateLimit, validated, hvalidate⟩, rfl⟩, fun c hc => hc⟩
  | lifecycle event now =>
    obtain rfl := List.mem_singleton.mp hmem
    exact ⟨trivial, fun c hc => (nomatch hc)⟩

theorem runServer_store (calls : List ServerCall) :
    ∃ storeCalls, (runServer env server calls).store = runCalls env.sha256 storeCalls Inner.new ∧
      ∀ storeCall ∈ storeCalls, Gated env server storeCall ∧
        ∀ c, storeCall.minted = some c → ∃ call ∈ calls, call.minted server = some c := by
  have hrun := runState_invariant (ServerCall.apply env server) (fun call => call ∈ calls)
    (fun st => Held env server st ∧ ∃ storeCalls, st.store = runCalls env.sha256 storeCalls Inner.new ∧
      ∀ storeCall ∈ storeCalls, Gated env server storeCall ∧
        ∀ c, storeCall.minted = some c → ∃ call ∈ calls, call.minted server = some c) ?_ calls ServerState.new
    (fun call hcall => hcall) ⟨fun entry hentry => (nomatch hentry), [], rfl, fun c hc => (nomatch hc)⟩
  · exact hrun.2
  · rintro call st hcall ⟨hheld, storeCalls, hstore, hgated⟩
    refine ⟨held_apply env server call st hheld, storeCalls ++ call.issued env server st, ?_, ?_⟩
    · rw [apply_store, hstore, runCalls, runCalls, runCalls, runState_append]
    · intro storeCall hmem
      rcases List.mem_append.mp hmem with hold | hnew
      · exact hgated storeCall hold
      · obtain ⟨hg, hminted⟩ := issued_gated env server call st hheld storeCall hnew
        exact ⟨hg, fun c hc => ⟨call, hcall, hminted c hc⟩⟩

theorem gated_validated (storeCall : StoreCall) (h : Gated env server storeCall) : storeCall.Validated := by
  cases storeCall with
  | commitPublish commit now uuid =>
    obtain ⟨-, ⟨rateLimit, validated, hvalidate⟩, -⟩ := h
    exact validatePublishRequest_version env commit.req (validate_ok env server _ _ _ hvalidate).1
  | markSuperseded ctxId => exact h
  | commitLifecycleEvent event now => trivial

end Refinement

end Acdp.Registry.Server
