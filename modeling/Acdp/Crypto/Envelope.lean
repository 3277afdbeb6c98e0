import Acdp.Types.Keyless
import Acdp.Foundation.Entries

namespace Acdp.Crypto

open Acdp.Types
open Acdp.Crypto.Merkle (Digest)

structure FreshResolution where
  document : DidDocument
  fresh : Bool

/-- One use of the resolver: what `resolve_until` answers for a DID and an acceptance test. -/
structure WebResolver where
  resolveUntil : String → (DidDocument → Bool) → Except AcdpError FreshResolution

def WebResolver.resolveWithFragment (resolver : WebResolver) (did fragment : String) :
    Except AcdpError DidDocument := do
  let res ← resolver.resolveUntil did (fun doc => (doc.findByFragment fragment).isSome)
  if (res.document.findByFragment fragment).isSome then .ok res.document
  else if res.fresh then
    .error (.keyResolution
      (s!"no verification method with fragment '#{fragment}' in {did} (checked against a " ++
      "freshly fetched DID document)"))
  else .error (.keyResolutionUnreachable
    (s!"no verification method with fragment '#{fragment}' in the cached DID document for {did}, " ++
    "and the forced re-fetch was refused by the per-DID rate limit — absence is not proven"))

def refuseKeylessFragment (keyId fragment : String) : Except AcdpError Unit :=
  if Text.hasPrefix keylessFragmentPrefix fragment then
    .error (.keyResolution
    (s!"signature.key_id '{keyId}' is a keyless key id: it resolves only through its " ++
      "key attestation (RFC-ACDP-0021), never through the DID document"))
  else .ok ()

/-- The document is good enough to stop at: it has the key, and the key may sign assertions. -/
def acceptsFragment (fragment : String) (doc : DidDocument) : Bool :=
  (doc.findByFragment fragment).any (fun m => doc.isAssertionMethod m.id)

def verifyDidWebEnvelope (env : Env) (signature : Signature) (contentHash : ContentHash)
    (resolver : WebResolver) (didPart fragment : String) : Except AcdpError Unit := do
  let res ← resolver.resolveUntil didPart (acceptsFragment fragment)
  match res.document.findByFragment fragment with
  | none =>
    if res.fresh then .error (.keyResolution s!"no verification method with fragment '#{fragment}'")
    else .error (.keyResolutionUnreachable
      (s!"no verification method with fragment '#{fragment}' in the cached DID document for {didPart}, " ++
      "and the forced re-fetch was refused by the per-DID rate limit — absence is not proven"))
  | some method =>
    if ¬ res.document.isAssertionMethod method.id then
      .error (.keyNotAuthorized ("'" ++ method.id ++ "' is not in assertionMethod"))
    else verifySignatureWithMethod env method signature contentHash

def verifySignatureEnvelope (env : Env) (agentId : AgentDid) (signature : Signature)
    (contentHash : ContentHash) (resolver : WebResolver) : Except AcdpError Unit :=
  match Text.splitOnceChar '#' signature.keyId with
  | none => .error (.keyResolution ("signature.key_id '" ++ signature.keyId ++ "' has no '#fragment'"))
  | some (didPart, fragment) => do
    if fragment = "" then
      .error (.keyResolution ("signature.key_id '" ++ signature.keyId ++ "' has an empty '#fragment'"))
    refuseKeylessFragment signature.keyId fragment
    if didPart ≠ agentId then
      .error (.keyNotAuthorized s!"key_id DID '{didPart}' ≠ agent_id '{agentId}'")
    if Text.hasPrefix "did:key:" didPart then verifyDidKeyEnvelope env signature contentHash
    else if ¬ Text.hasPrefix "did:web:" didPart then
      .error (.keyNotAuthorized s!"signatures require a did:web or did:key key_id; got '{didPart}'")
    else verifyDidWebEnvelope env signature contentHash resolver didPart fragment

def verifyPublishRequestSignature (env : Env) (req : PublishRequest) (resolver : WebResolver) :
    Except AcdpError Unit :=
  verifySignatureEnvelope env req.agentId req.signature req.contentHash resolver

def verifyPublishRequestSignatureOffline (env : Env) (req : PublishRequest) : Except AcdpError Unit :=
  let didPart := ((Text.splitOnceChar '#' req.signature.keyId).map Prod.fst).getD req.signature.keyId
  if didPart ≠ req.agentId then
    .error (.keyNotAuthorized (s!"key_id DID '{didPart}' ≠ agent_id '" ++ req.agentId ++ "'"))
  else if ¬ Text.hasPrefix "did:key:" didPart then
    .error (.keyResolution s!"offline verification supports did:key only; got '{didPart}'")
  else verifyDidKeyEnvelope env req.signature req.contentHash

def fingerprintForKeyId (env : Env) (keyId algorithm : String) (resolver : WebResolver) :
    Except AcdpError String :=
  match Text.splitOnceChar '#' keyId with
  | none => .error (.keyResolution s!"key_id '{keyId}' has no '#fragment'")
  | some (didPart, fragment) =>
    if Text.hasPrefix "did:key:" didPart then do
      fingerprintDidKeyMaterial env (← resolveDidKeyUrl env keyId)
    else do
      let doc ← resolver.resolveWithFragment didPart fragment
      match doc.findByFragment fragment with
      -- `resolve_with_fragment` only answers with a document that has the fragment
      | none => .error (.registryInternal "resolve_with_fragment guarantees the fragment")
      | some method => fingerprintVerificationMethod env method algorithm

section Keys

def keyFingerprint (env : Env) : KeyBytes → Except AcdpError String
  | .ed25519 key => .ok (fingerprintEd25519 env key)
  | .p256 sec1 => fingerprintP256Sec1 env sec1

def verifyUnder (env : Env) (signature : Signature) (contentHash : ContentHash) :
    KeyBytes → Except AcdpError Unit
  | .ed25519 key => env.verifyEd25519 key signature.value contentHash
  | .p256 sec1 => env.verifyEcdsaP256 sec1 signature.value contentHash

def materialKey : DidKeyMaterial → KeyBytes
  | .ed25519 key => .ed25519 key
  | .ecdsaP256 sec1 => .p256 sec1.toList

def methodKey (env : Env) (m : VerificationMethod) (algorithm : String) : Option KeyBytes :=
  if algorithm = "ed25519" then (m.ed25519PublicKeyBytes env).toOption.map .ed25519
  else if algorithm = "ecdsa-p256" then (m.ecdsaP256PublicKeySec1 env).toOption.map .p256
  else none

def didKeySigner (env : Env) (keyId : String) : Option KeyBytes :=
  (resolveDidKeyUrl env keyId).toOption.map materialKey

def envelopeSigner (env : Env) (signature : Signature) (resolver : WebResolver) : Option KeyBytes := do
  let (didPart, fragment) ← Text.splitOnceChar '#' signature.keyId
  if Text.hasPrefix "did:key:" didPart then didKeySigner env signature.keyId
  else
    let res ← (resolver.resolveUntil didPart (acceptsFragment fragment)).toOption
    methodKey env (← res.document.findByFragment fragment) signature.algorithm

def WebResolver.Agrees (a b : WebResolver) : Prop :=
  ∀ did accept accept' res res', a.resolveUntil did accept = .ok res → b.resolveUntil did accept' = .ok res' →
    res.document = res'.document

theorem verifyDidKeyEnvelope_ok (env : Env) (signature : Signature) (contentHash : ContentHash)
    (h : verifyDidKeyEnvelope env signature contentHash = .ok ()) :
    ∃ key, didKeySigner env signature.keyId = some key ∧
      verifyUnder env signature contentHash key = .ok () := by
  rw [verifyDidKeyEnvelope] at h
  obtain ⟨material, hmaterial, h⟩ := Foundation.Entries.bind_ok _ _ _ h
  refine ⟨materialKey material, by rw [didKeySigner, hmaterial]; rfl, ?_⟩
  split at h
  · cases h
  · cases material with
    | ed25519 key => exact h
    | ecdsaP256 sec1 => exact h

theorem fingerprintDidKeyMaterial_eq (env : Env) (material : DidKeyMaterial) :
    fingerprintDidKeyMaterial env material = keyFingerprint env (materialKey material) := by
  cases material <;> rfl

theorem verifySignatureByAlgorithm_ok (env : Env) (m : VerificationMethod) (signature : Signature)
    (contentHash : ContentHash) (h : verifySignatureByAlgorithm env m signature contentHash = .ok ()) :
    ∃ key, methodKey env m signature.algorithm = some key ∧
      verifyUnder env signature contentHash key = .ok () := by
  rw [verifySignatureByAlgorithm] at h
  rw [methodKey]
  split_ifs at h ⊢
  · obtain ⟨key, hkey, h⟩ := Foundation.Entries.bind_ok _ _ _ h
    exact ⟨.ed25519 key, by rw [hkey]; rfl, h⟩
  · obtain ⟨sec1, hsec1, h⟩ := Foundation.Entries.bind_ok _ _ _ h
    exact ⟨.p256 sec1, by rw [hsec1]; rfl, h⟩

theorem verifySignatureWithMethod_ok (env : Env) (m : VerificationMethod) (signature : Signature)
    (contentHash : ContentHash) (h : verifySignatureWithMethod env m signature contentHash = .ok ()) :
    ∃ key, methodKey env m signature.algorithm = some key ∧
      verifyUnder env signature contentHash key = .ok () := by
  rw [verifySignatureWithMethod] at h
  split at h
  · split_ifs at h
    exact verifySignatureByAlgorithm_ok env m signature contentHash h
  · exact verifySignatureByAlgorithm_ok env m signature contentHash h

theorem fingerprintVerificationMethod_eq (env : Env) (m : VerificationMethod) (algorithm : String)
    (key : KeyBytes) (h : methodKey env m algorithm = some key) :
    fingerprintVerificationMethod env m algorithm = keyFingerprint env key := by
  rw [methodKey] at h
  rw [fingerprintVerificationMethod]
  split_ifs at h ⊢
  · obtain ⟨bytes, hbytes, rfl⟩ := Option.map_eq_some_iff.mp h
    cases hm : m.ed25519PublicKeyBytes env with
    | error e =>
      rw [hm] at hbytes
      cases hbytes
    | ok bytes' =>
      rw [hm] at hbytes
      obtain rfl := Option.some.inj hbytes
      rfl
  · obtain ⟨sec1, hsec1, rfl⟩ := Option.map_eq_some_iff.mp h
    cases hm : m.ecdsaP256PublicKeySec1 env with
    | error e =>
      rw [hm] at hsec1
      cases hsec1
    | ok sec1' =>
      rw [hm] at hsec1
      obtain rfl := Option.some.inj hsec1
      rfl

theorem verifySignatureEnvelope_ok (env : Env) (agentId : AgentDid) (signature : Signature)
    (contentHash : ContentHash) (resolver : WebResolver)
    (h : verifySignatureEnvelope env agentId signature contentHash resolver = .ok ()) :
    ∃ key, envelopeSigner env signature resolver = some key ∧
      verifyUnder env signature contentHash key = .ok () := by
  rw [verifySignatureEnvelope] at h
  cases hsplit : Text.splitOnceChar '#' signature.keyId with
  | none =>
    rw [hsplit] at h
    cases h
  | some parts =>
    obtain ⟨didPart, fragment⟩ := parts
    simp only [hsplit, Foundation.Entries.seq_ok_iff, Foundation.Entries.guard_ok_iff] at h
    obtain ⟨-, -, -, h⟩ := h
    rw [envelopeSigner, hsplit]
    simp only [Option.bind_eq_bind, Option.bind_some]
    split_ifs at h ⊢ with hkey
    · exact verifyDidKeyEnvelope_ok env signature contentHash h
    · rw [verifyDidWebEnvelope] at h
      obtain ⟨res, hres, h⟩ := Foundation.Entries.bind_ok _ _ _ h
      cases hfind : res.document.findByFragment fragment with
      | none =>
        simp only [hfind] at h
        split_ifs at h
      | some method =>
        simp only [hfind] at h
        split_ifs at h
        obtain ⟨key, hmethod, hverify⟩ := verifySignatureWithMethod_ok env method signature contentHash h
        refine ⟨key, ?_, hverify⟩
        rw [hres]
        simpa [Except.toOption, hfind] using hmethod

theorem resolveWithFragment_ok (resolver : WebResolver) (did fragment : String) (doc : DidDocument)
    (h : resolver.resolveWithFragment did fragment = .ok doc) :
    ∃ accept res, resolver.resolveUntil did accept = .ok res ∧ res.document = doc := by
  rw [WebResolver.resolveWithFragment] at h
  obtain ⟨res, hres, h⟩ := Foundation.Entries.bind_ok _ _ _ h
  split_ifs at h
  exact ⟨_, res, hres, Except.ok.inj h⟩

theorem fingerprintForKeyId_ok (env : Env) (signature : Signature) (verifying fingerprinting : WebResolver)
    (hagrees : verifying.Agrees fingerprinting) (key : KeyBytes) (fp : String)
    (hkey : envelopeSigner env signature verifying = some key)
    (h : fingerprintForKeyId env signature.keyId signature.algorithm fingerprinting = .ok fp) :
    keyFingerprint env key = .ok fp := by
  rw [envelopeSigner] at hkey
  rw [fingerprintForKeyId] at h
  cases hsplit : Text.splitOnceChar '#' signature.keyId with
  | none =>
    rw [hsplit] at h
    cases h
  | some parts =>
    obtain ⟨didPart, fragment⟩ := parts
    rw [hsplit] at h hkey
    simp only [Option.bind_eq_bind, Option.bind_some] at hkey
    dsimp only at h
    split_ifs at h hkey
    · obtain ⟨material, hmaterial, h⟩ := Foundation.Entries.bind_ok _ _ _ h
      rw [didKeySigner, hmaterial] at hkey
      obtain rfl := Option.some.inj hkey
      rw [← fingerprintDidKeyMaterial_eq, h]
    · obtain ⟨doc, hdoc, h⟩ := Foundation.Entries.bind_ok _ _ _ h
      obtain ⟨accept, res', hres', rfl⟩ := resolveWithFragment_ok _ _ _ _ hdoc
      cases hres : verifying.resolveUntil didPart (acceptsFragment fragment) with
      | error e =>
        rw [hres] at hkey
        cases hkey
      | ok res =>
        have hsame := hagrees didPart _ _ _ _ hres hres'
        rw [← hsame] at h
        rw [hres] at hkey
        simp only [Except.toOption, Option.bind_some] at hkey
        cases hfind : res.document.findByFragment fragment with
        | none =>
          rw [hfind] at hkey
          cases hkey
        | some method =>
          rw [hfind] at h hkey
          rw [← fingerprintVerificationMethod_eq env method signature.algorithm key hkey]
          exact h

end Keys

end Acdp.Crypto
