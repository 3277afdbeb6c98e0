import Acdp.Chain.Stages
import Acdp.Chain.KeysAsOf

namespace Acdp.Chain

open Acdp.Types
open Acdp.Crypto

/-- `pc'` is `pc` with lifecycle events and event receipts appended that the pass at `t` cannot admit. -/
structure ContextSealed (requireAttestedEvents : Bool) (t : DateTime) (pc pc' : ParsedContext) : Prop where
  rawBody : pc'.rawBody = pc.rawBody
  body : pc'.body = pc.body
  receipt : pc'.receipt = pc.receipt
  logInclusion : pc'.logInclusion = pc.logInclusion
  events : pc.events <+: pc'.events
  eventReceipts : pc.eventReceipts <+: pc'.eventReceipts
  late : ∀ r ∈ pc'.eventReceipts.drop pc.eventReceipts.length, t < r.1.acceptedAt
  attested : (pc'.events = pc.events ∧ pc'.eventReceipts = pc.eventReceipts) ∨ requireAttestedEvents = true
  taken : ∀ (j : ℕ) (r : EventReceipt × Json), pc.events.length ≤ j → j < pc'.events.length →
    pc.eventReceipts[j]? = some r → t < r.1.acceptedAt

theorem ContextSealed.refl (requireAttestedEvents : Bool) (t : DateTime) (pc : ParsedContext) :
    ContextSealed requireAttestedEvents t pc pc where
  rawBody := rfl
  body := rfl
  receipt := rfl
  logInclusion := rfl
  events := List.prefix_refl _
  eventReceipts := List.prefix_refl _
  late := by simp
  attested := .inl ⟨rfl, rfl⟩
  taken := fun j _ hle hlt => absurd hlt (by omega)

/-- `e'` has everything `e` has, and what it has more is dated after `t`. -/
structure Engine.Sealed (t : DateTime) (e e' : Engine) : Prop where
  env : e'.env = e.env
  keyless : e'.keyless = e.keyless
  pinned : e'.pinned = e.pinned
  requireAttestedEvents : e'.requireAttestedEvents = e.requireAttestedEvents
  keylessAttesters : e'.keylessAttesters = e.keylessAttesters
  select : ∀ did, e'.keys.select did (some t) = e.keys.select did (some t)
  kept : ∀ (k : String) (pc : ParsedContext), e.parsed.contexts[k]? = some pc →
    ∃ pc', e'.parsed.contexts[k]? = some pc' ∧ ContextSealed e.requireAttestedEvents t pc pc'
  late : ∀ (k : String) (pc' : ParsedContext), e.parsed.contexts[k]? = none →
    e'.parsed.contexts[k]? = some pc' → ∃ r, pc'.receipt = some r ∧ t < r.1.createdAt
  unnamed : ∀ (k : String) (pc : ParsedContext) (reference : KeyAttestationRef),
    e.parsed.contexts[k]? = some pc → isKeylessKeyId pc.body.signature.keyId = true →
    pc.body.keyAttestation e.env = .ok (some reference) → e.parsed.contexts[reference.ctxId]? = none →
    e'.parsed.contexts[reference.ctxId]? = none
  discovery : ∀ did, (e'.parsed.discovery.getD did []).filter (fun d => d.completedAt ≤ t) =
    (e.parsed.discovery.getD did []).filter (fun d => d.completedAt ≤ t)
  cosignatures : (e'.parsed.checkpoints.flatMap (·.cosignatures)).filter (fun c => c.1.witnessedAt ≤ t) =
    (e.parsed.checkpoints.flatMap (·.cosignatures)).filter (fun c => c.1.witnessedAt ≤ t)
  omitted : e'.parsed.omitted = e.parsed.omitted

def ReceiptStage.withoutReason (s : ReceiptStage) : ReceiptStage := { s with reason := none }

def Basic.withoutReason (b : Basic) : Basic := { b with receiptStage := b.receiptStage.withoutReason }

theorem Basic.eq_of_withoutReason (b b' : Basic) (h : b'.withoutReason = b.withoutReason) :
    b' = { b with receiptStage := b'.receiptStage } := by
  cases b
  cases b'
  simp only [withoutReason, Basic.mk.injEq] at h ⊢
  simp only [h, and_self]

namespace Engine.Sealed

variable {t : DateTime} {e e' : Engine} {pc pc' : ParsedContext}

theorem check (h : Sealed t e e') (signature : Signature) (hash : ContentHash) (did : String) :
    e'.keys.check e.env signature hash did (some t) = e.keys.check e.env signature hash did (some t) :=
  BundleKeys.check_congr e.env e.keys e'.keys (some t) h.select signature hash did

theorem registryBasis (h : Sealed t e e') (did : String) : e'.registryBasis did = e.registryBasis did := by
  rw [Engine.registryBasis, Engine.registryBasis, h.pinned]

theorem receiptChecked (h : Sealed t e e') (hc : ContextSealed e.requireAttestedEvents t pc pc')
    (key : String) (recomputed : Option ContentHash) (fingerprint : Option String) (r : RegistryReceipt)
    (raw : Json) :
    e'.receiptChecked key pc' recomputed fingerprint r raw =
      e.receiptChecked key pc recomputed fingerprint r raw := by
  unfold Engine.receiptChecked
  rw [hc.body, h.env]

theorem receipt (h : Sealed t e e') (hc : ContextSealed e.requireAttestedEvents t pc pc') (key : String)
    (recomputed : Option ContentHash) (fingerprint : Option String) :
    (e'.receipt key pc' recomputed fingerprint (.asOf t)).1.withoutReason =
        (e.receipt key pc recomputed fingerprint (.asOf t)).1.withoutReason ∧
      (e'.receipt key pc' recomputed fingerprint (.asOf t)).2 =
        (e.receipt key pc recomputed fingerprint (.asOf t)).2 := by
  simp only [Engine.receipt, hc.receipt, h.receiptChecked hc, h.env, h.registryBasis, PassAt.t, h.check]
  cases pc.receipt with
  | none => exact ⟨rfl, rfl⟩
  | some p =>
    dsimp only
    cases e.receiptChecked key pc recomputed fingerprint p.1 p.2 with
    | none => exact ⟨rfl, rfl⟩
    | some hash =>
      dsimp only
      cases e.keys.check e.env p.1.signature hash p.1.registryDid (some t) with
      | ok c => exact ⟨rfl, rfl⟩
      | error m =>
        cases m with
        | malformed => exact ⟨rfl, rfl⟩
        | noEvidence =>
          dsimp only
          split_ifs <;> exact ⟨rfl, rfl⟩

theorem locate (h : Sealed t e e') (body : Body) (attested : Option (Except Unattested Attested)) :
    e'.locate body (.asOf t) attested = e.locate body (.asOf t) attested := by
  cases attested with
  | none =>
    rw [Engine.locate, Engine.locate, h.env]
    exact h.check body.signature body.contentHash body.agentId
  | some r => cases r <;> rfl

theorem hasSnapshot (h : Sealed t e e') (did : String) :
    e'.keys.hasSnapshot did (some t) = e.keys.hasSnapshot did (some t) :=
  BundleKeys.hasSnapshot_congr e.keys e'.keys did (some t) (h.select did)

theorem locatedStages (h : Sealed t e e') (check : Except Missing KeyCheck) (receipt : Option VerifiedReceipt)
    (pass : PassAt) : e'.locatedStages check receipt pass = e.locatedStages check receipt pass := by
  simp only [Engine.locatedStages, h.env]

theorem keylessStages (h : Sealed t e e') (body : Body) (a : Attested) (r : VerifiedReceipt) :
    e'.keylessStages body a r (.asOf t) = e.keylessStages body a r (.asOf t) := by
  simp only [Engine.keylessStages, PassAt.t, h.hasSnapshot, h.registryBasis, h.env,
    BundleKeys.document_congr e.keys e'.keys body.agentId (some t) (h.select _)]
  rfl

theorem keyStages (h : Sealed t e e') (body : Body) (check : Except Missing KeyCheck)
    (receipt : Option VerifiedReceipt) (attested : Option (Except Unattested Attested)) :
    e'.keyStages body check receipt (.asOf t) attested = e.keyStages body check receipt
      (.asOf t) attested := by
  simp only [Engine.keyStages, h.locatedStages, h.keylessStages]

theorem presence (h : Sealed t e e') (receipt : Option VerifiedReceipt) (pass : PassAt) :
    e'.presence receipt pass = e.presence receipt pass := by
  simp only [Engine.presence, h.env]

theorem identity (h : Sealed t e e') (hc : ContextSealed e.requireAttestedEvents t pc pc') (key : String)
    (receipt : Option VerifiedReceipt) : e'.identity key pc' receipt = e.identity key pc receipt := by
  have hcarried : Engine.carriedDisagrees pc' = Engine.carriedDisagrees pc := by
    rw [Engine.carriedDisagrees, Engine.carriedDisagrees, hc.receipt, hc.body]
  unfold Engine.identity
  rw [hcarried, hc.body, h.env]

theorem basicWith (h : Sealed t e e') (hc : ContextSealed e.requireAttestedEvents t pc pc') (key : String)
    (attested : Option (Except Unattested Attested)) :
    (e'.basicWith key pc' (.asOf t) attested).withoutReason =
      (e.basicWith key pc (.asOf t) attested).withoutReason := by
  obtain ⟨hstage, hreceipt⟩ := h.receipt hc key (computeContentHash e.env pc.rawBody).toOption
    ((e.locate pc.body (.asOf t) attested).toOption.bind (·.fingerprint))
  simp only [Basic.withoutReason, Engine.basicWith, h.env, hc.rawBody, hc.body, h.locate, hreceipt, hstage,
    h.keyStages, h.presence, h.identity hc]

theorem attestationBasic (h : Sealed t e e') (hc : ContextSealed e.requireAttestedEvents t pc pc')
    (key : String) :
    (e'.attestationBasic key pc' (.asOf t)).withoutReason =
      (e.attestationBasic key pc (.asOf t)).withoutReason := by
  rw [Engine.attestationBasic, Engine.attestationBasic, hc.body]
  exact h.basicWith hc key _

theorem attestationUsable (h : Sealed t e e') (hc : ContextSealed e.requireAttestedEvents t pc pc')
    (key : String) :
    e'.attestationUsable pc' (e'.attestationBasic key pc' (.asOf t)) (.asOf t) =
      e.attestationUsable pc (e.attestationBasic key pc (.asOf t)) (.asOf t) := by
  have hbasic := h.attestationBasic hc key
  change e'.attestationUsable pc' (e'.attestationBasic key pc' (.asOf t)).withoutReason (.asOf t) =
    e.attestationUsable pc (e.attestationBasic key pc (.asOf t)).withoutReason (.asOf t)
  rw [hbasic]
  simp only [Engine.attestationUsable, hc.receipt, hc.body, PassAt.t, h.hasSnapshot]
  rfl

theorem keylessAttested (h : Sealed t e e') (key : String) (hpc : e.parsed.contexts[key]? = some pc) :
    e'.keylessAttested pc.body (.asOf t) = e.keylessAttested pc.body (.asOf t) := by
  by_cases hkey : isKeylessKeyId pc.body.signature.keyId = true
  · simp only [Engine.keylessAttested, hkey, h.env, not_true_eq_false, if_false]
    cases href : pc.body.keyAttestation e.env with
    | error _ => rfl
    | ok reference =>
      cases reference with
      | none => rfl
      | some reference =>
        dsimp only
        cases hatt : e.parsed.contexts[reference.ctxId]? with
        | none => rw [h.unnamed key pc reference hpc hkey href hatt]
        | some att =>
          obtain ⟨att', hatt', hc⟩ := h.kept _ _ hatt
          rw [hatt']
          simp only [hc.body, h.attestationUsable hc, h.keylessAttesters]
  · simp only [Engine.keylessAttested, hkey, not_false_eq_true, if_true, Bool.false_eq_true]

theorem attested (h : Sealed t e e') (key : String) (hpc : e.parsed.contexts[key]? = some pc)
    (hc : ContextSealed e.requireAttestedEvents t pc pc') :
    e'.attested pc'.body (.asOf t) = e.attested pc.body (.asOf t) := by
  rw [Engine.attested, Engine.attested, hc.body, h.keyless, h.keylessAttested key hpc]

theorem basic (h : Sealed t e e') (key : String) (hpc : e.parsed.contexts[key]? = some pc)
    (hc : ContextSealed e.requireAttestedEvents t pc pc') :
    (e'.basic key pc' (.asOf t)).withoutReason = (e.basic key pc (.asOf t)).withoutReason := by
  rw [Engine.basic, Engine.basic, h.attested key hpc hc]
  exact h.basicWith hc key _

end Engine.Sealed

end Acdp.Chain
