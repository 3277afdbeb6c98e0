import Acdp.Registry.PublishRuns
import Acdp.Types.TextParts

namespace Acdp.Registry.Server

open Acdp.Types
open Acdp.Crypto
open Acdp.Foundation.Entries (bind_ok seq_ok_iff guard_ok_iff)
open Acdp.Foundation.Transition
open Acdp.Registry.Store (Inner commitPublish_cases preparePublish_ok publish_get? publish_get?_body
  commitLifecycleEvent_cases mintedCtxId)
open Acdp.Validation (PublishEnv validatePublishRequest)

section Parsing

variable (env : Env)

theorem requiredStr_ok (meta_ : List (String × Json)) (key s : String)
    (h : KeyRevocation.requiredStr meta_ key = .ok s) : (meta_.lookup key).bind Json.asStr = some s := by
  unfold KeyRevocation.requiredStr at h
  split at h
  · next hs => rw [hs, Except.ok.inj h]
  · cases h

theorem optionalStr_ok (meta_ : List (String × Json)) (key : String) (s : Option String)
    (h : KeyRevocation.optionalStr meta_ key = .ok s) :
    meta_.lookup key = s.map .str := by
  unfold KeyRevocation.optionalStr at h
  split at h
  · next hs => rw [hs, ← Except.ok.inj h]; rfl
  · next hs => rw [hs, ← Except.ok.inj h]; rfl
  · cases h

theorem checkNotSelfSigned_ok (r : KeyRevocation) (fp : String) (h : r.checkNotSelfSigned fp = .ok ()) :
    fp ≠ r.revokedKeyFingerprint := by
  rw [KeyRevocation.checkNotSelfSigned] at h
  split_ifs at h with hfp
  exact hfp

structure ReadsRevocation (metadata : Option Json) (agentId : AgentDid) (keyId : String) (r : KeyRevocation) :
    Prop where
  fingerprint : ((metadata.bind Json.asObject).bind (·.lookup "revoked_key_fingerprint")).bind Json.asStr =
    some r.revokedKeyFingerprint
  controller : ∃ raw : Option String, ∃ did : Option AgentDid,
    (metadata.bind Json.asObject).bind (·.lookup "revoked_key_controller") = raw.map .str ∧
    raw.mapM AgentDid.parse = .ok did ∧ r.revokedKeyController = did.getD agentId
  trustClass : r.trustClass = if r.revokedKeyController = agentId then .producerSigned else .registryAttested
  notSelfSigned : ∀ fp, KeyRevocation.didKeyFingerprint env keyId = some fp → fp ≠ r.revokedKeyFingerprint

theorem fromParts_reads (contextType : ContextType) (visibility : Visibility) (metadata : Option Json)
    (agentId : AgentDid) (keyId : String) (r : KeyRevocation)
    (h : KeyRevocation.fromParts env contextType visibility metadata agentId keyId = .ok r) :
    contextType.isKeyRevocation ∧ ReadsRevocation env metadata agentId keyId r := by
  rw [KeyRevocation.fromParts] at h
  simp only [guard_ok_iff] at h
  obtain ⟨htype, -, h⟩ := h
  refine ⟨not_not.mp htype, ?_⟩
  cases hmeta : metadata.bind Json.asObject with
  | none =>
    rw [hmeta] at h
    cases h
  | some meta_ =>
    rw [hmeta] at h
    obtain ⟨fingerprint, hfingerprint, h⟩ := bind_ok _ _ _ h
    rw [guard_ok_iff] at h
    obtain ⟨-, h⟩ := h
    obtain ⟨sinceRaw, -, h⟩ := bind_ok _ _ _ h
    cases hsince : parseCanonicalMs env sinceRaw with
    | none =>
      rw [hsince] at h
      cases h
    | some since =>
      rw [hsince] at h
      obtain ⟨reason, -, h⟩ := bind_ok _ _ _ h
      rw [guard_ok_iff] at h
      obtain ⟨-, h⟩ := h
      obtain ⟨keyIdRaw, -, h⟩ := bind_ok _ _ _ h
      obtain ⟨raw, hraw, h⟩ := bind_ok _ _ _ h
      obtain ⟨did, hdid, h⟩ := bind_ok _ _ _ h
      have hfields : r.revokedKeyFingerprint = fingerprint ∧ r.revokedKeyController = did.getD agentId ∧
          r.trustClass = (if did.getD agentId = agentId then .producerSigned else .registryAttested) ∧
          ∀ fp, KeyRevocation.didKeyFingerprint env keyId = some fp → fp ≠ fingerprint := by
        cases hself : KeyRevocation.didKeyFingerprint env keyId with
        | none =>
          rw [hself] at h
          obtain rfl := Except.ok.inj h
          exact ⟨rfl, rfl, rfl, fun fp hfp => (nomatch hfp)⟩
        | some fp =>
          rw [hself] at h
          obtain ⟨hcheck, h⟩ := (seq_ok_iff _ _ _).mp h
          obtain rfl := Except.ok.inj h
          refine ⟨rfl, rfl, rfl, ?_⟩
          intro fp' hfp'
          obtain rfl := Option.some.inj hfp'
          exact checkNotSelfSigned_ok _ _ hcheck
      obtain ⟨hfp, hcontroller, hclass, hself⟩ := hfields
      refine ⟨?_, ⟨raw, did, ?_, hdid, hcontroller⟩, by rw [hclass, hcontroller], by rw [hfp]; exact hself⟩
      · rw [hmeta, hfp]
        exact requiredStr_ok _ _ _ hfingerprint
      · rw [hmeta]
        exact optionalStr_ok _ _ _ hraw

theorem fromBody_reads (body : Body) (r : KeyRevocation) (h : KeyRevocation.fromBody env body = .ok r) :
    body.contextType.isKeyRevocation ∧
      ReadsRevocation env body.metadata body.agentId body.signature.keyId r := by
  obtain ⟨parsed, hparsed, h⟩ := bind_ok _ _ _ h
  obtain ⟨htype, hreads⟩ := fromParts_reads env _ _ _ _ _ _ hparsed
  obtain rfl := Except.ok.inj h
  exact ⟨htype, hreads.fingerprint, hreads.controller, hreads.trustClass, hreads.notSelfSigned⟩

theorem checkNotSelfSignedLenient_ok (req : PublishRequest) (fp : String) (r : KeyRevocation)
    (hreads : ReadsRevocation env req.metadata req.agentId req.signature.keyId r)
    (h : KeyRevocation.checkNotSelfSignedLenient req fp = .ok ()) : fp ≠ r.revokedKeyFingerprint := by
  unfold KeyRevocation.checkNotSelfSignedLenient at h
  rw [hreads.fingerprint] at h
  dsimp only at h
  split_ifs at h with hfp
  exact fun he => hfp he.symm

end Parsing

section Controller

variable (env : Env) (caps : CapabilitiesDocument) (req : PublishRequest) (r : KeyRevocation)

theorem controllerPresent_iff (metadata : Option Json) :
    controllerPresent metadata = true ↔
      ((metadata.bind Json.asObject).bind (·.lookup "revoked_key_controller")).isSome = true := by
  rw [controllerPresent]
  cases metadata.bind Json.asObject with
  | none => simp
  | some m => simp

theorem ReadsRevocation.controller_cases
    (h : ReadsRevocation env req.metadata req.agentId req.signature.keyId r) :
    (controllerPresent req.metadata = false ∧ r.revokedKeyController = req.agentId) ∨
    (controllerPresent req.metadata = true ∧ ∃ raw,
      (req.metadata.bind Json.asObject).bind (·.lookup "revoked_key_controller") = some (.str raw) ∧
      AgentDid.parse raw = .ok r.revokedKeyController) := by
  obtain ⟨raw, did, hraw, hdid, hcontroller⟩ := h.controller
  cases raw with
  | none =>
    obtain rfl := Except.ok.inj hdid
    refine .inl ⟨?_, hcontroller⟩
    rw [Bool.eq_false_iff, ne_eq, controllerPresent_iff, hraw]
    simp
  | some raw =>
    obtain ⟨parsed, hparsed, hdid⟩ := bind_ok _ _ _ hdid
    obtain rfl := Except.ok.inj hdid
    refine .inr ⟨(controllerPresent_iff _).mpr (by rw [hraw]; rfl), raw, hraw, ?_⟩
    rw [hcontroller]
    exact hparsed

structure ControllerBound : Prop where
  attested : r.trustClass = .registryAttested → req.agentId = caps.registryDid
  named : req.agentId = caps.registryDid → controllerPresent req.metadata = true

theorem ReadsRevocation.controller_ne (h : ReadsRevocation env req.metadata req.agentId req.signature.keyId r)
    (hattested : r.trustClass = .registryAttested) : r.revokedKeyController ≠ req.agentId := by
  intro heq
  rw [h.trustClass, if_pos heq] at hattested
  cases hattested

theorem checkRevocationController_ok (parsed : KeyRevocation)
    (hreads : ReadsRevocation env req.metadata req.agentId req.signature.keyId r)
    (hsame : parsed.revokedKeyController = r.revokedKeyController)
    (h : checkRevocationController caps req parsed = .ok ()) : ControllerBound caps req r := by
  unfold checkRevocationController at h
  split at h
  · cases h
  next hdiffers =>
  split at h
  · cases h
  next habsent =>
  refine ⟨?_, ?_⟩
  · intro hattested
    have hne := hreads.controller_ne env req r hattested
    obtain ⟨-, heq⟩ | ⟨hpresent, -⟩ := hreads.controller_cases env req r
    · exact absurd heq hne
    · by_contra hagent
      exact hdiffers ⟨hpresent, by rw [hsame]; exact hne, hagent⟩
  · intro hagent
    by_contra hpresent
    exact habsent ⟨hpresent, hagent⟩

theorem checkRevocationControllerLenient_ok
    (hreads : ReadsRevocation env req.metadata req.agentId req.signature.keyId r)
    (h : checkRevocationControllerLenient caps req = .ok ()) : ControllerBound caps req r := by
  unfold checkRevocationControllerLenient at h
  obtain ⟨habsent, heq⟩ | ⟨hpresent, raw, hraw, hparse⟩ := hreads.controller_cases env req r
  · have hnone : (req.metadata.bind Json.asObject).bind (·.lookup "revoked_key_controller") = none := by
      rw [← Option.not_isSome_iff_eq_none, ← controllerPresent_iff, habsent]
      decide
    rw [hnone] at h
    simp only [Option.bind_none] at h
    split_ifs at h with hagent
    exact ⟨fun hattested => absurd heq (hreads.controller_ne env req r hattested), fun hc => absurd hc hagent⟩
  · rw [hraw] at h
    simp only [Option.bind_some, Json.asStr, hparse] at h
    split_ifs at h with hdiffers
    refine ⟨?_, fun _ => hpresent⟩
    intro hattested
    by_contra hagent
    exact hdiffers ⟨hreads.controller_ne env req r hattested, hagent⟩

end Controller

theorem isKeyRevocation_cases (ct : ContextType) (h : ct.isKeyRevocation) :
    ct = .keyRevocation ∨ isInterimKeyRevocationForm ct = true := by
  cases ct with
  | keyRevocation => exact .inl rfl
  | custom name =>
    rw [ContextType.isKeyRevocation, beq_iff_eq] at h
    subst h
    exact .inr (by decide)
  | dataSnapshot => cases h
  | analysis => cases h
  | prediction => cases h
  | alert => cases h

section Validation

variable (env : PublishEnv) (server : PublishServer)
  (hgate : keyRevocationGateApplies server.caps.acdpVersion = true) (req : PublishRequest) (r : KeyRevocation)

include hgate

theorem checkKeyRevocation_ok (htype : req.contextType.isKeyRevocation)
    (hreads : ReadsRevocation env.toEnv req.metadata req.agentId req.signature.keyId r)
    (hparse : ∀ parsed, KeyRevocation.fromPublishRequest env.toEnv req = .ok parsed →
      parsed.revokedKeyController = r.revokedKeyController)
    (h : PublishValidator.checkKeyRevocation env ⟨server.caps, some server.authority⟩ req = .ok ()) :
    ControllerBound server.caps req r := by
  rw [PublishValidator.checkKeyRevocation] at h
  simp only [guard_ok_iff, hgate, and_true] at h
  obtain ⟨-, h⟩ := h
  obtain hstandard | hinterim := isKeyRevocation_cases req.contextType htype
  · have hnot : ¬ isInterimKeyRevocationForm req.contextType = true := by
      rw [hstandard]
      decide
    rw [if_neg hnot, if_pos hstandard] at h
    obtain ⟨parsed, hparsed, h⟩ := bind_ok _ _ _ h
    exact checkRevocationController_ok env.toEnv server.caps req r parsed hreads (hparse parsed hparsed) h
  · rw [if_pos hinterim] at h
    simp only [seq_ok_iff] at h
    exact checkRevocationControllerLenient_ok env.toEnv server.caps req r hreads h.2.1

end Validation

section Keys

variable (env : PublishEnv)

def pinnedKeyBytes (publicKeyB64 algorithm : String) : Option KeyBytes := do
  let raw ← (env.base64Decode publicKeyB64).toOption
  if algorithm = "ed25519" then (sizedBytes 32 raw).map .ed25519
  else if algorithm = "ecdsa-p256" then some (.p256 raw)
  else none

def ProveCall.verifiedKey (call : ProveCall) : Option KeyBytes :=
  match call.path with
  | .resolved verifying _ => envelopeSigner env.toEnv call.req.signature verifying
  | .didKey => didKeySigner env.toEnv call.req.signature.keyId
  | .pinned publicKeyB64 algorithm => pinnedKeyBytes env publicKeyB64 algorithm

def ProvePath.isPinned : ProvePath → Bool
  | .pinned _ _ => true
  | _ => false

def ProvePath.Stable : ProvePath → Prop
  | .resolved verifying fingerprinting => verifying.Agrees fingerprinting
  | _ => True

theorem fingerprintPinnedKey_ok (publicKeyB64 algorithm fp : String)
    (h : fingerprintPinnedKey env publicKeyB64 algorithm = .ok fp) :
    ∃ key, pinnedKeyBytes env publicKeyB64 algorithm = some key ∧ keyFingerprint env.toEnv key = .ok fp := by
  rw [fingerprintPinnedKey] at h
  rw [pinnedKeyBytes]
  cases hraw : env.base64Decode publicKeyB64 with
  | error e =>
    rw [hraw] at h
    cases h
  | ok raw =>
    rw [hraw] at h
    simp only [Except.toOption, Option.bind_eq_bind, Option.bind_some]
    dsimp only at h
    split_ifs at h ⊢
    · cases hkey : sizedBytes 32 raw with
      | none =>
        rw [hkey] at h
        cases h
      | some key =>
        rw [hkey] at h
        exact ⟨.ed25519 key, rfl, h⟩
    · exact ⟨.p256 raw, rfl, h⟩

theorem hasPrefix_of_splitOnceChar (keyId did fragment msi : String)
    (hsplit : Text.splitOnceChar '#' keyId = some (did, fragment))
    (hstrip : Text.stripPrefix "did:key:" did = some msi) : Text.hasPrefix "did:key:" keyId = true := by
  obtain ⟨hlist, -⟩ := Text.splitOnceChar_eq_some '#' keyId did fragment hsplit
  rw [Text.stripPrefix_eq_some_iff] at hstrip
  rw [Text.hasPrefix, hlist, hstrip, String.toList_append, List.isPrefixOf_iff_prefix, List.append_assoc]
  exact List.prefix_append _ _

theorem didKeyFingerprint_of_signer (keyId : String) (key : KeyBytes) (fp : String)
    (hkey : didKeySigner env.toEnv keyId = some key) (hfp : keyFingerprint env.toEnv key = .ok fp) :
    KeyRevocation.didKeyFingerprint env.toEnv keyId = some fp := by
  obtain ⟨material, hmaterial, rfl⟩ := Option.map_eq_some_iff.mp hkey
  rw [← fingerprintDidKeyMaterial_eq] at hfp
  cases hresolve : resolveDidKeyUrl env.toEnv keyId with
  | error e =>
    rw [hresolve] at hmaterial
    cases hmaterial
  | ok material' =>
    rw [hresolve] at hmaterial
    obtain rfl := Option.some.inj hmaterial
    have hprefix : Text.hasPrefix "did:key:" keyId = true := by
      rw [resolveDidKeyUrl] at hresolve
      split at hresolve
      · cases hresolve
      · next did fragment hsplit =>
        split at hresolve
        · cases hresolve
        · next msi hstrip => exact hasPrefix_of_splitOnceChar keyId did fragment msi hsplit hstrip
    rw [KeyRevocation.didKeyFingerprint, hresolve, hprefix]
    simp [Except.toOption, hfp, guard]

end Keys

section Proving

variable (env : PublishEnv) (server : PublishServer)
  (hgate : keyRevocationGateApplies server.caps.acdpVersion = true)

include hgate

theorem proveFingerprint_ok (req : PublishRequest) (htype : req.contextType.isKeyRevocation)
    (fingerprint : Except AcdpError String) (result : Option String)
    (h : server.proveFingerprint req fingerprint = .ok result) :
    ∃ fp, fingerprint = .ok fp ∧ KeyRevocation.checkNotSelfSignedLenient req fp = .ok () := by
  have hneeded : server.revocationCheckNeeded req = true := by
    rw [PublishServer.revocationCheckNeeded, htype, hgate]
    rfl
  rw [PublishServer.proveFingerprint, hneeded] at h
  obtain ⟨fpOption, hfp, h⟩ := bind_ok _ _ _ h
  rw [PublishServer.fingerprintIf, if_pos (Bool.or_true _)] at hfp
  cases fingerprint with
  | error e => cases hfp
  | ok fp =>
    obtain rfl := Except.ok.inj hfp
    simp only [if_true, seq_ok_iff] at h
    exact ⟨fp, rfl, h.1⟩

theorem prove_notSelfSigned (call : ProveCall) (proven : Proven) (hstable : call.path.Stable)
    (htype : call.req.contextType.isKeyRevocation) (r : KeyRevocation)
    (hreads : ReadsRevocation env.toEnv call.req.metadata call.req.agentId call.req.signature.keyId r)
    (h : call.prove env server = .ok proven) :
    ∃ key, call.verifiedKey env = some key ∧
      (call.path.isPinned = false →
        verifyUnder env.toEnv call.req.signature call.req.contentHash key = .ok ()) ∧
      keyFingerprint env.toEnv key ≠ .ok r.revokedKeyFingerprint := by
  rw [ProveCall.prove] at h
  rw [ProveCall.verifiedKey]
  cases hpath : call.path with
  | resolved verifying fingerprinting =>
    rw [hpath] at h hstable
    obtain ⟨validated, -, h⟩ := bind_ok _ _ _ h
    simp only [seq_ok_iff] at h
    obtain ⟨hsignature, h⟩ := h
    obtain ⟨key, hkey, hverify⟩ := verifySignatureEnvelope_ok env.toEnv _ _ _ _ hsignature
    obtain ⟨result, hresult, -⟩ := bind_ok _ _ _ h
    obtain ⟨fp, hfp, hlenient⟩ := proveFingerprint_ok server hgate call.req htype _ result hresult
    refine ⟨key, hkey, fun _ => hverify, ?_⟩
    rw [fingerprintForKeyId_ok env.toEnv _ _ _ hstable key fp hkey hfp]
    intro heq
    exact checkNotSelfSignedLenient_ok env.toEnv call.req fp r hreads hlenient (Except.ok.inj heq)
  | didKey =>
    rw [hpath] at h
    obtain ⟨validated, -, h⟩ := bind_ok _ _ _ h
    simp only [seq_ok_iff] at h
    obtain ⟨hsignature, -⟩ := h
    rw [verifyPublishRequestSignatureOffline] at hsignature
    split_ifs at hsignature
    obtain ⟨key, hkey, hverify⟩ := verifyDidKeyEnvelope_ok env.toEnv _ _ hsignature
    refine ⟨key, hkey, fun _ => hverify, ?_⟩
    intro hfp
    exact hreads.notSelfSigned _ (didKeyFingerprint_of_signer env _ key _ hkey hfp) rfl
  | pinned publicKeyB64 algorithm =>
    rw [hpath] at h
    obtain ⟨validated, -, h⟩ := bind_ok _ _ _ h
    obtain ⟨result, hresult, -⟩ := bind_ok _ _ _ h
    obtain ⟨fp, hfp, hlenient⟩ := proveFingerprint_ok server hgate call.req htype _ result hresult
    obtain ⟨key, hkey, hkeyfp⟩ := fingerprintPinnedKey_ok env publicKeyB64 algorithm fp hfp
    refine ⟨key, hkey, fun hpinned => Bool.noConfusion hpinned, ?_⟩
    rw [hkeyfp]
    intro heq
    exact checkNotSelfSignedLenient_ok env.toEnv call.req fp r hreads hlenient (Except.ok.inj heq)

end Proving

section Origins

variable (env : PublishEnv) (server : PublishServer) (calls : List ServerCall)

def ServerCall.ThroughProof : ServerCall → Prop
  | .publishUnverified _ _ _ _ _ _ => False
  | _ => True

/-- The context stored under `id` was materialized from the request of `call`, which this server proved. -/
def StoredFrom (id : CtxId) (body : Body) (call : ProveCall) : Prop :=
  ServerCall.prove call ∈ calls ∧ (∃ proven, call.prove env server = .ok proven) ∧
    ∃ lineageId now, body = Body.fromPublishRequest call.req id lineageId server.authority now

structure Traced (st : ServerState) : Prop where
  held : ∀ entry ∈ st.proven, ServerCall.prove entry.1 ∈ calls ∧ entry.1.prove env server = .ok entry.2
  origins : ∀ id ctx, st.store.byCtx.get? id = some ctx →
    ∃ call, st.origin id = some call ∧ StoredFrom env server calls id ctx.body call

theorem recordOrigin_of_isSome (call : ProveCall) (id : CtxId) (before after : Inner)
    (origin : CtxId → Option ProveCall) (k : CtxId) (h : (before.byCtx.get? k).isSome) :
    recordOrigin call id before after origin k = origin k := by
  rw [recordOrigin]
  split_ifs with hnew
  · rw [Function.update_of_ne]
    rintro rfl
    simp [Option.isNone_iff_eq_none.mp hnew.1] at h
  · rfl

theorem commitProven_cases (proven : Proven) (idempotencyKey tenant : Option String) (now : DateTime)
    (uuid : String) (s : Inner) :
    (server.commitProven env proven idempotencyKey tenant now uuid s).2 = s ∨
    ∃ lineageId receipt, s.byCtx.get? (mintedCtxId server.authority uuid) = none ∧
      (server.commitProven env proven idempotencyKey tenant now uuid s).2 =
        s.publish (server.publishCommit env proven.req idempotencyKey tenant proven.fingerprint) now
          (Body.fromPublishRequest proven.req (mintedCtxId server.authority uuid) lineageId
            server.authority now)
          receipt := by
  rw [commitProven_store]
  split_ifs
  · exact .inl rfl
  · obtain ⟨o, -, heq⟩ | ⟨e, -, -, heq⟩ | ⟨body, receipt, -, hprep, heq⟩ := commitPublish_cases env.sha256
      (server.publishCommit env proven.req idempotencyKey tenant proven.fingerprint) now uuid s
    · exact .inl (by rw [heq])
    · exact .inl (by rw [heq])
    · obtain ⟨first, lineageId, -, -, rfl, hfresh, -⟩ := preparePublish_ok _ _ _ _ _ _ _ hprep
      exact .inr ⟨lineageId, receipt, hfresh, by rw [heq]; rfl⟩

theorem Traced.commit (st : ServerState) (h : Traced env server calls st) (index : ℕ)
    (idempotencyKey tenant : Option String) (now : DateTime) (uuid : String) :
    Traced env server calls
      (ServerCall.apply env server (.commit index idempotencyKey tenant now uuid) st).2 := by
  rw [ServerCall.apply]
  cases hproven : st.proven[index]? with
  | none => exact h
  | some entry =>
    obtain ⟨hcall, hprove⟩ := h.held entry (List.mem_of_getElem? hproven)
    refine ⟨fun other hother => h.held other (List.mem_of_mem_eraseIdx hother), ?_⟩
    intro id ctx hget
    dsimp only at hget ⊢
    obtain heq | ⟨lineageId, receipt, hfresh, heq⟩ :=
      commitProven_cases env server entry.2 idempotencyKey tenant now uuid st.store
    · rw [heq] at hget
      obtain ⟨call, horigin, hfrom⟩ := h.origins id ctx hget
      exact ⟨call, by rw [recordOrigin_of_isSome _ _ _ _ _ _ (by rw [hget]; rfl), horigin], hfrom⟩
    · by_cases hid : id = mintedCtxId server.authority uuid
      · subst hid
        refine ⟨entry.1, ?_, hcall, ⟨entry.2, hprove⟩, lineageId, now, ?_⟩
        · rw [recordOrigin, hget, hfresh, if_pos ⟨rfl, rfl⟩, Function.update_self]
        · have hself : (Body.fromPublishRequest entry.2.req (mintedCtxId server.authority uuid) lineageId
              server.authority now).ctxId = mintedCtxId server.authority uuid := rfl
          rw [heq, publish_get?, if_pos hself, Option.map_some] at hget
          rw [← (prove_ok env server _ _ hprove).1]
          obtain rfl := Option.some.inj hget
          split_ifs <;> rfl
      · rw [heq] at hget
        have hmap := publish_get?_body (s := st.store)
          (server.publishCommit env entry.2.req idempotencyKey tenant entry.2.fingerprint) now
          (Body.fromPublishRequest entry.2.req (mintedCtxId server.authority uuid) lineageId
          server.authority now)
          receipt id hid
        rw [hget, Option.map_some, eq_comm, Option.map_eq_some_iff] at hmap
        obtain ⟨old, hold, hbody⟩ := hmap
        obtain ⟨call, horigin, hfrom⟩ := h.origins id old hold
        exact ⟨call, by rw [recordOrigin_of_isSome _ _ _ _ _ _ (by rw [hold]; rfl), horigin], hbody ▸ hfrom⟩

theorem Traced.lifecycle (st : ServerState) (h : Traced env server calls st) (event : LifecycleEvent)
    (now : DateTime) : Traced env server calls (ServerCall.apply env server (.lifecycle event now) st).2 := by
  refine ⟨h.held, ?_⟩
  intro id ctx hget
  rw [ServerCall.apply] at hget ⊢
  dsimp only at hget ⊢
  obtain ⟨e, heq⟩ | ⟨old, -, -, heq⟩ | ⟨old, -, -, -, heq⟩ := commitLifecycleEvent_cases event now st.store
  · rw [heq] at hget
    exact h.origins id ctx hget
  · rw [heq] at hget
    exact h.origins id ctx hget
  · rw [heq] at hget
    dsimp only at hget
    rw [Store.ContextTable.get?_setState] at hget
    split_ifs at hget
    · obtain ⟨before, hbefore, rfl⟩ := Option.map_eq_some_iff.mp hget
      exact h.origins id before hbefore
    · exact h.origins id ctx hget

theorem traced_run (hthrough : ∀ call ∈ calls, call.ThroughProof) :
    Traced env server calls (runServer env server calls) := by
  refine runState_invariant (ServerCall.apply env server) (fun call => call ∈ calls) _ ?_ calls
    ServerState.new (fun call hcall => hcall) ⟨fun entry hentry => (nomatch hentry), ?_⟩
  · intro call st hmem h
    cases call with
    | prove call =>
      rw [ServerCall.apply]
      cases hprove : call.prove env server with
      | error e => exact h
      | ok proven =>
        refine ⟨?_, h.origins⟩
        intro entry hentry
        rcases List.mem_append.mp hentry with hold | hnew
        · exact h.held entry hold
        · obtain rfl := List.mem_singleton.mp hnew
          exact ⟨hmem, hprove⟩
    | commit index idempotencyKey tenant now uuid => exact h.commit env server calls st index _ _ _ _
    | publishUnverified req rateLimit idempotencyKey tenant now uuid => exact (hthrough _ hmem).elim
    | lifecycle event now => exact h.lifecycle env server calls st event now
  · intro id ctx hget
    simp [ServerState.new, Inner.new, Store.ContextTable.get?_empty] at hget

end Origins

theorem revocation_admission_sound (env : PublishEnv) (server : PublishServer)
    (hgate : keyRevocationGateApplies server.caps.acdpVersion = true) (calls : List ServerCall)
    (hthrough : ∀ call ∈ calls, call.ThroughProof)
    (hstable : ∀ call, ServerCall.prove call ∈ calls → call.path.Stable)
    (st : ServerState) (hst : st = runServer env server calls) (id : CtxId) (ctx : FullContext)
    (hget : st.store.byCtx.get? id = some ctx) (r : KeyRevocation)
    (hparse : KeyRevocation.fromBody env.toEnv ctx.body = .ok r) :
    (∃ call key, st.origin id = some call ∧ StoredFrom env server calls id ctx.body call ∧
      call.verifiedKey env = some key ∧
      (call.path.isPinned = false →
        verifyUnder env.toEnv ctx.body.signature ctx.body.contentHash key = .ok ()) ∧
      keyFingerprint env.toEnv key ≠ .ok r.revokedKeyFingerprint) ∧
    (r.trustClass = .registryAttested → ctx.body.agentId = server.caps.registryDid) ∧
    (ctx.body.agentId = server.caps.registryDid → controllerPresent ctx.body.metadata = true) := by
  have htraced := traced_run env server calls hthrough
  rw [← hst] at htraced
  obtain ⟨call, horigin, hfrom⟩ := htraced.origins id ctx hget
  obtain ⟨hmem, ⟨proven, hprove⟩, lineageId, now, hbody⟩ := hfrom
  obtain ⟨htype, hreads⟩ := fromBody_reads env.toEnv ctx.body r hparse
  rw [hbody] at htype hreads hparse
  obtain ⟨key, hkey, hverify, hself⟩ :=
    prove_notSelfSigned env server hgate call proven (hstable call hmem) htype r
      hreads hprove
  obtain ⟨-, validated, hvalidated⟩ := prove_ok env server call proven hprove
  have hbound := checkKeyRevocation_ok env server hgate call.req r htype hreads (by
    intro parsed hparsed
    obtain ⟨parsed', hparsed', hr⟩ := bind_ok _ _ _ hparse
    obtain rfl : parsed = parsed' := Except.ok.inj (hparsed.symm.trans hparsed')
    obtain rfl := Except.ok.inj hr
    rfl) (validate_ok env server _ _ _ hvalidated).2
  rw [hbody]
  exact ⟨⟨call, key, horigin, ⟨hmem, ⟨proven, hprove⟩, lineageId, now, rfl⟩, hkey, hverify, hself⟩,
    hbound.attested, hbound.named⟩

theorem PublishServer.validate_of_hash (env : PublishEnv) (server : PublishServer) (req : PublishRequest)
    (validator : PublishValidator) (hvalidator : validator = ⟨server.caps, some server.authority⟩)
    (hvalid : validatePublishRequest env req = .ok ())
    (hsize : env.toVecLen (req.toValue env.toWireEnv) ≤ server.caps.limits.maxPayloadBytes.toNat)
    (hembedded : req.dataRefs.forM (PublishValidator.checkEmbeddedLimit env validator) = .ok ())
    (hhash : computeContentHash env.toEnv (req.toValue env.toWireEnv) = .ok req.contentHash)
    (halgorithm : PublishValidator.checkAlgorithm env validator req = .ok ())
    (hmethod : PublishValidator.checkDidMethod env validator req = .ok ())
    (hbinding : PublishValidator.checkKeyIdBinding req = .ok ())
    (hregistry : PublishValidator.checkCrossRegistry validator req = .ok ())
    (hrevocation : PublishValidator.checkKeyRevocation env validator req = .ok ()) :
    server.validate env req (.ok ()) = .ok ⟨req.contentHash⟩ := by
  subst hvalidator
  rw [PublishServer.validate, PublishValidator.validatePostSchema,
    PublishValidator.validateRegistryLimitsAndCrypto]
  simp only [seq_ok_iff, guard_ok_iff]
  refine ⟨trivial, hvalid, not_lt.mpr hsize, hembedded, ?_, halgorithm, hmethod, hbinding, hregistry,
    hrevocation, rfl⟩
  rw [PublishValidator.checkContentHash, Option.filter_none]
  exact verifyTypedContentHash_of_canonical _ _ _ hhash

theorem pinned_proves (env : PublishEnv) (server : PublishServer) (req : PublishRequest)
    (publicKeyB64 algorithm : String) (fp : Option String) (validated : ValidatedPublish)
    (hvalidated : server.validate env req (.ok ()) = .ok validated)
    (hfp : server.proveFingerprint req (fingerprintPinnedKey env publicKeyB64 algorithm) = .ok fp) :
    ProveCall.prove env server ⟨req, .ok (), .pinned publicKeyB64 algorithm⟩ =
      .ok ⟨req, fp, validated.recomputedHash, server.authority⟩ := by
  change server.provePublishIdentityPinned env req (.ok ()) publicKeyB64 algorithm = _
  rw [PublishServer.provePublishIdentityPinned, hvalidated, hfp]
  rfl

section Sample

open Acdp.Registry.Store (sampleRequest sampleInstant sampleUuid1 sampleCtx1 sampleSha256 storedContext)

def revokedFingerprint : String := "sha256:fe812c12f3ab4ce6ac5db69ac352f906cb1b11ef43fb33e252ef7ff552263889"

def compromisedSince : String := "2026-01-01T00:00:00.000Z"

def revocationMetadata : Json :=
  .obj [("revoked_key_fingerprint", .str revokedFingerprint), ("compromised_since", .str compromisedSince)]

def metadataText : String :=
  "\x7b\"compromised_since\":\"2026-01-01T00:00:00.000Z\",\"revoked_key_fingerprint\":\"" ++
  revokedFingerprint ++ "\"\x7d"

def revocationTextOf (supersedes version : String) : String :=
  "\x7b\"agent_id\":\"did:web:agents.example.com:alice\",\"contributors\":[],\"data_refs\":[]," ++
  "\"derived_from\":[],\"metadata\":" ++ metadataText ++ ",\"supersedes\":" ++ supersedes ++
  ",\"title\":\"Key compromise\",\"type\":\"key-revocation\",\"version\":" ++ version ++
  ",\"visibility\":\"public\"\x7d"

def revocationText : String := revocationTextOf "null" "1"

def revisionText : String := revocationTextOf ("\"" ++ sampleCtx1 ++ "\"") "2"

def pinnedKeyB64 : String := "O2onvM62pC1io6jQKm8Nc2UyFXcd4kOmOsBIoYtZ2ik="

def pinnedKey : List UInt8 :=
  [59, 106, 39, 188, 206, 182, 164, 45, 98, 163, 168, 208, 42, 111, 13, 115, 101, 50, 21, 119, 29,
    226, 67, 166, 58, 192, 72, 161, 139, 89, 218, 41]

def revocationSha256 (bytes : List UInt8) : Acdp.Crypto.Merkle.Digest :=
  if bytes = pinnedKey then
    #v[19, 158, 57, 64, 230, 75, 84, 145, 114, 32, 136, 217, 160, 215, 65, 98, 143, 200, 38, 224,
    148, 117, 211, 65, 167, 128, 172, 222, 60, 75, 128, 112]
  else if bytes = utf8 revocationText then
    #v[142, 152, 63, 147, 75, 136, 148, 119, 217, 53, 240, 148, 86, 100, 99, 225, 30, 185, 230, 199,
    86, 83, 200, 39, 102, 81, 84, 163, 7, 228, 48, 232]
  else if bytes = utf8 revisionText then
    #v[6, 57, 19, 183, 37, 147, 1, 116, 74, 255, 161, 216, 204, 156, 175, 243, 143, 236, 47, 178,
    91, 197, 202, 200, 140, 203, 146, 4, 204, 47, 99, 137]
  else sampleSha256 bytes

theorem compromised_lower : -8334601228800000000000 ≤ (1767225600000000000 : ℤ) := by decide

theorem compromised_upper : (1767225600000000000 : ℤ) ≤ 8210266876799999999999 := by decide

def compromisedInstant : DateTime := ⟨1767225600000000000, compromised_lower, compromised_upper⟩

def sampleSpelling (time : DateTime) : String := if time = compromisedInstant then compromisedSince else ""

def revocationEnv : PublishEnv where
  leafToValue := fun _ => .error (.invalidLogProof "no leaf")
  leafDeserialize := fun _ => .error "no leaf"
  parseFromRfc3339 := fun raw =>
    if raw = compromisedSince then .ok compromisedInstant else .error "input contains invalid characters"
  canonicalize := fun v =>
    .ok (if v = revocationMetadata then utf8 metadataText
      else if v.get "version" = some (.num (.posInt 2)) then utf8 revisionText
      else utf8 revocationText)
  sha256 := revocationSha256
  usizeBits := 64
  bodyDeserialize := fun _ => .error "no body"
  receiptDeserialize := fun _ => .error "no receipt"
  eventDeserialize := fun _ => .error "no event"
  eventReceiptDeserialize := fun _ => .error "no event receipt"
  checkpointDeserialize := fun _ => .error "no checkpoint"
  inclusionDeserialize := fun _ => .error "no inclusion"
  cosignatureDeserialize := fun _ => .error "no cosignature"
  didDocumentDeserialize := fun _ => .error "no document"
  attestationRefDeserialize := fun _ => .error "no reference"
  attestationDeserialize := fun _ => .error "no attestation"
  identityDeserialize := fun _ => .error "no identity"
  fmtRfc3339Ms := sampleSpelling
  display := sampleSpelling
  base64UrlDecode := fun _ => .error "no key"
  base58Decode := fun _ => .error "no key"
  p256Compressed := fun _ => .error "no key"
  verifyEd25519 := fun _ _ _ => .error (.invalidSignature "signature verification failed")
  verifyEcdsaP256 := fun _ _ _ => .error (.invalidSignature "signature verification failed")
  validateBodySchema := fun _ => .ok ()
  toRfc3339AutoSi := sampleSpelling
  toVecLen := fun v => if v.get "version" = some (.num (.posInt 2)) then 695 else 633
  base64Decode := fun text => if text = pinnedKeyB64 then .ok pinnedKey else .error "Invalid padding"
  requestDeserialize := fun _ => .error "no request"
  debugStr := fun s => "\"" ++ s ++ "\""
  debugAnchor := fun _ => ""

def sampleRevocation : PublishRequest :=
  { sampleRequest 1 none "sha256:8e983f934b889477d935f094566463e11eb9e6c75653c827665154a307e430e8" with
    title := "Key compromise"
    contextType := .keyRevocation
    metadata := some revocationMetadata
    signature := ⟨"ed25519", "did:web:agents.example.com:alice#key-2",
      "8vhXust4UiLYrxwaNL2wwQsDjN0K0pe1UfBDujM+zSFHe2lSmu771/yFQ4wxuSl0rt+EPPVG8hhgctA1Bo+2Bg=="⟩ }

def revocationServer : PublishServer where
  caps := {
    anonymousPublicReads := true
    acdpVersion := "0.4.0"
    registryDid := "did:web:registry.example.com"
    supportedSignatureAlgorithms := ["ed25519"]
    supportedDidMethods := ["did:web"]
    limits := ⟨1048576, 65536, none⟩
    supportsIdempotencyKey := false }
  authority := "registry.example.com"
  receiptSigner := none

def revocationProve : ProveCall := ⟨sampleRevocation, .ok (), .pinned pinnedKeyB64 "ed25519"⟩

def revocationCalls : List ServerCall :=
  [.prove revocationProve, .commit 0 none none (sampleInstant 0) sampleUuid1]

theorem sampleRevocation_hash :
    computeContentHash revocationEnv.toEnv (sampleRevocation.toValue revocationEnv.toWireEnv) =
      .ok sampleRevocation.contentHash := by
  decide +kernel

theorem sampleRevocation_valid : validatePublishRequest revocationEnv sampleRevocation = .ok () := by
  decide +kernel

example : keyRevocationGateApplies revocationServer.caps.acdpVersion = true := by decide +kernel

theorem sampleRevocation_bound :
    PublishValidator.checkKeyRevocation revocationEnv ⟨revocationServer.caps, some revocationServer.authority⟩
      sampleRevocation = .ok () := by
  decide +kernel

example : isInterimKeyRevocationForm sampleRevocation.contextType = false := by decide +kernel

theorem sampleRevocation_validated :
    revocationServer.validate revocationEnv sampleRevocation (.ok ()) =
      .ok ⟨sampleRevocation.contentHash⟩ :=
  revocationServer.validate_of_hash revocationEnv sampleRevocation _ rfl sampleRevocation_valid
    (by decide) rfl sampleRevocation_hash (by decide +kernel) (by decide +kernel)
    (by decide +kernel) rfl sampleRevocation_bound

def provenRevocation : Proven :=
  ⟨sampleRevocation, some "sha256:139e3940e64b5491722088d9a0d741628fc826e09475d341a780acde3c4b8070",
    sampleRevocation.contentHash, "registry.example.com"⟩

theorem revocationProve_proves : revocationProve.prove revocationEnv revocationServer =
    .ok provenRevocation :=
  pinned_proves _ _ sampleRevocation pinnedKeyB64 "ed25519" _ _ sampleRevocation_validated (by decide +kernel)

def storedRevocation : FullContext :=
  storedContext (Body.fromPublishRequest sampleRevocation sampleCtx1
    (deriveLineageId revocationSha256 sampleCtx1) "registry.example.com" (sampleInstant 0)) none

theorem runState_publish (env : PublishEnv) (server : PublishServer) (call : ProveCall) (proven : Proven)
    (hprove : call.prove env server = .ok proven) (idempotencyKey tenant : Option String) (now : DateTime)
    (uuid : String) (calls : List ServerCall) (st : ServerState) (hnone : st.proven = []) :
    ∃ st', st'.proven = [] ∧
      st'.store = (server.commitProven env proven idempotencyKey tenant now uuid st.store).2 ∧
      runState (ServerCall.apply env server)
        (.prove call :: .commit 0 idempotencyKey tenant now uuid :: calls) st =
        runState (ServerCall.apply env server) calls st' := by
  have hproved : (ServerCall.apply env server (.prove call) st).2 =
      { st with proven := [(call, proven)] } := by
    rw [ServerCall.apply, hprove, hnone]
    rfl
  refine ⟨(ServerCall.apply env server (.commit 0 idempotencyKey tenant now uuid)
    { st with proven := [(call, proven)] }).2, rfl, rfl, ?_⟩
  rw [runState, runState, hproved]

theorem revocationCalls_store : (runServer revocationEnv revocationServer revocationCalls).store =
    (revocationServer.commitProven revocationEnv provenRevocation none none (sampleInstant 0) sampleUuid1
      Inner.new).2 := by
  obtain ⟨st, -, hstore, hrun⟩ := runState_publish revocationEnv revocationServer _ _ revocationProve_proves
    none none (sampleInstant 0) sampleUuid1 [] ServerState.new rfl
  rw [runServer, revocationCalls, hrun, runState, hstore, ServerState.new]

theorem revocationCalls_stored :
    (runServer revocationEnv revocationServer revocationCalls).store.byCtx.get? sampleCtx1 =
      some storedRevocation := by
  rw [revocationCalls_store]
  decide +kernel

def parsedRevocation : KeyRevocation where
  revokedKeyFingerprint := revokedFingerprint
  compromisedSince := compromisedInstant
  reason := none
  revokedKeyId := none
  revokedKeyController := "did:web:agents.example.com:alice"
  trustClass := .producerSigned
  publisher := "did:web:agents.example.com:alice"
  ctxId := some sampleCtx1

theorem storedRevocation_parses :
    KeyRevocation.fromBody revocationEnv.toEnv storedRevocation.body = .ok parsedRevocation := by
  decide +kernel

theorem sampleRevocation_not_self_signed :
    ∃ call key, (runServer revocationEnv revocationServer revocationCalls).origin sampleCtx1 = some call ∧
      call.verifiedKey revocationEnv = some key ∧
      keyFingerprint revocationEnv.toEnv key ≠ .ok revokedFingerprint := by
  obtain ⟨⟨call, key, horigin, -, hkey, -, hne⟩, -⟩ :=
    revocation_admission_sound revocationEnv revocationServer
      (by decide +kernel) revocationCalls (by simp [revocationCalls, ServerCall.ThroughProof])
      (by simp [revocationCalls, revocationProve, ProvePath.Stable]) _ rfl sampleCtx1 storedRevocation
      revocationCalls_stored parsedRevocation storedRevocation_parses
  exact ⟨call, key, horigin, hkey, hne⟩

end Sample

end Acdp.Registry.Server
