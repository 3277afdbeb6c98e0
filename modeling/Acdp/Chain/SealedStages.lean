import Acdp.Chain.SealedRetraction
import Acdp.Foundation.Selection

namespace Acdp.Chain

open Acdp.Types
open Acdp.Foundation
open Std (ExtTreeSet)

namespace Engine

theorem countWitness_of_lt (e : Engine) (checkpoint : LogCheckpoint) (t : DateTime)
    (seen : ExtTreeSet String) (c : LogCosignature × Json) (hc : t < c.1.witnessedAt) :
    e.countWitness checkpoint (.asOf t) seen c = seen := by
  have hadmits : (PassAt.asOf t).admits c.1.witnessedAt = false := by
    simpa [PassAt.admits, PassAt.t, BundleKeys.admittedAt] using hc
  simp [countWitness, hadmits]

theorem foldl_countWitness (e : Engine) (checkpoint : LogCheckpoint) (t : DateTime)
    (l : List (LogCosignature × Json)) (seen : ExtTreeSet String) :
    l.foldl (e.countWitness checkpoint (.asOf t)) seen =
      (l.filter (fun c => c.1.witnessedAt ≤ t)).foldl (e.countWitness checkpoint (.asOf t)) seen := by
  induction l generalizing seen with
  | nil => rfl
  | cons c l ih =>
    by_cases hc : c.1.witnessedAt ≤ t
    · rw [List.filter_cons_of_pos (by simpa using hc), List.foldl_cons, List.foldl_cons, ih]
    · rw [List.filter_cons_of_neg (by simpa using hc), List.foldl_cons,
        e.countWitness_of_lt checkpoint t seen c (not_le.mp hc), ih]

theorem discovered_asOf (e : Engine) (producer : String) (t : DateTime) :
    e.discovered producer (.asOf t) =
      if ((e.parsed.discovery.getD producer []).filter (fun d => d.completedAt ≤ t)).any
          (fun d => d.outcome == .revoked) then bareRevocation .unknown
      else match (((e.parsed.discovery.getD producer []).filter (fun d => d.completedAt ≤ t)).filter
          (fun d => d.outcome == .notRevokedComplete)).reverse.argmax
            (fun d => toLex (e.vantagePinned d.vantage, d.completedAt)) with
        | some d =>
          { bareRevocation .notRevoked with
            basis := some (if e.vantagePinned d.vantage then .pinned else .observed)
            evidenceTime := some (fmtTs e.env d.completedAt) }
        | none => bareRevocation .unknown := by
  have hadmits (d : ParsedDiscovery) : (PassAt.asOf t).admits d.completedAt = decide (d.completedAt ≤ t) :=
    rfl
  rw [List.any_filter, List.filter_filter, ← Selection.argmax_zipIdx _ _ _ 0]
  simp only [discovered, hadmits, Bool.and_comm (decide _) (_ == DiscoveryOutcome.revoked)]
  congr 1
  cases List.argmax
    (fun p : ParsedDiscovery × ℕ => toLex (toLex (e.vantagePinned p.1.vantage, p.1.completedAt), p.2))
    ((e.parsed.discovery.getD producer []).zipIdx.filter
      (fun p => p.1.outcome == .notRevokedComplete && decide (p.1.completedAt ≤ t))).reverse <;> rfl

theorem discovered_congr (e e' : Engine) (producer : String) (t : DateTime) (henv : e'.env = e.env)
    (hpinned : e'.pinned = e.pinned)
    (h : (e'.parsed.discovery.getD producer []).filter (fun d => d.completedAt ≤ t) =
      (e.parsed.discovery.getD producer []).filter (fun d => d.completedAt ≤ t)) :
    e'.discovered producer (.asOf t) = e.discovered producer (.asOf t) := by
  have hvantage : e'.vantagePinned = e.vantagePinned := by
    funext vantage
    rw [vantagePinned, vantagePinned, hpinned]
  rw [discovered_asOf, discovered_asOf, h, henv, hvantage]

theorem keylessAttested_mem (e : Engine) (body : Body) (pass : PassAt) (a : Attested)
    (h : e.keylessAttested body pass = .ok a) : ∃ pc, e.parsed.contexts[a.ctxId]? = some pc := by
  unfold keylessAttested at h
  split_ifs at h
  split at h
  · cases h
  · cases h
  · rename_i reference _
    cases hpc : e.parsed.contexts[reference.ctxId]? with
    | none => rw [hpc] at h; cases h
    | some pc =>
      rw [hpc] at h
      dsimp only at h
      split at h
      · cases h
      split at h
      · cases h
      split at h
      · cases h
      split at h
      · cases h
      split at h
      · cases h
      split at h
      · cases h
      obtain rfl := Except.ok.inj h
      exact ⟨pc, hpc⟩

theorem keyless_of_keyStages (e : Engine) (body : Body) (check : Except Missing KeyCheck)
    (receipt : Option VerifiedReceipt) (pass : PassAt) (attested : Option (Except Unattested Attested))
    (a : Attested) (h : (e.keyStages body check receipt pass attested).2.1 = some a) :
    attested = some (.ok a) := by
  unfold keyStages at h
  split at h
  · cases h
  · cases h
  · split at h
    · split at h
      · rw [Option.some.inj h]
      · rw [Option.some.inj h]
    · cases h

theorem basic_keyless_mem (e : Engine) (key : String) (pc : ParsedContext) (pass : PassAt) (a : Attested)
    (h : (e.basic key pc pass).keyless = some a) : ∃ att, e.parsed.contexts[a.ctxId]? = some att := by
  have hatt := keyless_of_keyStages e _ _ _ _ _ a h
  rw [attested] at hatt
  split_ifs at hatt
  exact e.keylessAttested_mem pc.body pass a (Option.some.inj hatt)

theorem receipt_createdAt (e : Engine) (key : String) (pc : ParsedContext) (recomputed : Option ContentHash)
    (fingerprint : Option String) (pass : PassAt) (v : VerifiedReceipt)
    (h : (e.receipt key pc recomputed fingerprint pass).2 = some v) :
    ∃ r, pc.receipt = some r ∧ v.createdAt = r.1.createdAt := by
  unfold receipt at h
  split at h
  · cases h
  · rename_i r raw hr
    refine ⟨(r, raw), hr, ?_⟩
    split at h
    · cases h
    split at h
    · split at h
      · rw [← Option.some.inj h]
      · cases h
    · cases h
    · split at h
      · split at h <;> cases h
      · cases h

theorem presence_of_late (e : Engine) (key : String) (pc : ParsedContext) (t : DateTime)
    (r : RegistryReceipt × Json) (hr : pc.receipt = some r) (hlate : t < r.1.createdAt)
    (hverified : (e.basic key pc (.asOf t)).receipt ≠ none) :
    (e.basic key pc (.asOf t)).presence.value = .notYetPublished := by
  obtain ⟨v, hv⟩ := Option.ne_none_iff_exists'.mp hverified
  obtain ⟨r', hr', hv'⟩ := e.receipt_createdAt _ _ _ _ _ v hv
  rw [hr] at hr'
  obtain rfl := Option.some.inj hr'
  have hadmits : (PassAt.asOf t).admits v.createdAt = false := by
    rw [hv']
    simpa [PassAt.admits, PassAt.t, BundleKeys.admittedAt] using hlate
  change (e.presence (e.basic key pc (.asOf t)).receipt (.asOf t)).1.value = _
  rw [hv]
  simp [presence, hadmits]

theorem appliedRevocation_withoutReason (e : Engine) (key : String) (pc : ParsedContext) (b : Basic)
    (pass : PassAt) : e.appliedRevocation key pc b.withoutReason pass = e.appliedRevocation key pc b pass :=
  rfl

theorem appliedRevocation_of_late (e : Engine) (key : String) (pc : ParsedContext) (t : DateTime)
    (r : RegistryReceipt × Json) (hr : pc.receipt = some r) (hlate : t < r.1.createdAt) :
    e.appliedRevocation key pc (e.basic key pc (.asOf t)) (.asOf t) = none := by
  unfold appliedRevocation
  split
  · rfl
  split
  · rfl
  · rename_i hverified
    have hpresence := e.presence_of_late key pc t r hr hlate (fun hnone => hverified ⟨rfl, hnone⟩)
    split
    · simp [keylessSignedRevocation, hpresence]
    · simp [strict, hpresence]

end Engine

namespace Engine.Sealed

variable {t : DateTime} {e e' : Engine} {pc pc' : ParsedContext}

theorem checkpointSignature (h : Sealed t e e') (checkpoint : LogCheckpoint) (raw : Json) :
    e'.checkpointSignature checkpoint raw (.asOf t) = e.checkpointSignature checkpoint raw (.asOf t) := by
  simp only [Engine.checkpointSignature, PassAt.t, h.env, h.check]

theorem countWitness (h : Sealed t e e') (checkpoint : LogCheckpoint) :
    e'.countWitness checkpoint (.asOf t) = e.countWitness checkpoint (.asOf t) := by
  have hverifies : e'.cosignatureVerifies checkpoint (.asOf t) =
      e.cosignatureVerifies checkpoint (.asOf t) := by
    funext c
    simp only [Engine.cosignatureVerifies, PassAt.t, h.env, h.check]
  funext seen c
  unfold Engine.countWitness
  rw [hverifies, h.pinned]

theorem witnesses (h : Sealed t e e') (checkpoint : LogCheckpoint) :
    e'.witnesses checkpoint (.asOf t) = e.witnesses checkpoint (.asOf t) := by
  rw [Engine.witnesses, Engine.witnesses, foldl_countWitness, h.cosignatures, h.countWitness,
    ← foldl_countWitness]

theorem log (h : Sealed t e e') (hc : ContextSealed e.requireAttestedEvents t pc pc') (basic : Basic) :
    e'.log pc' basic (.asOf t) = e.log pc basic (.asOf t) := by
  simp only [Engine.log, hc.logInclusion, hc.receipt, hc.body, h.env, h.checkpointSignature, h.witnesses,
    h.registryBasis]

theorem withdrawn (h : Sealed t e e') (ctxId : String) (hmem : ∃ att, e.parsed.contexts[ctxId]? = some att) :
    (e'.parsed.contexts[ctxId]?).map (fun att => (e'.retraction att (.asOf t)).1) =
      (e.parsed.contexts[ctxId]?).map (fun att => (e.retraction att (.asOf t)).1) := by
  obtain ⟨att, hatt⟩ := hmem
  obtain ⟨att', hatt', hc⟩ := h.kept _ _ hatt
  rw [hatt, hatt', Option.map_some, Option.map_some, h.retraction hc]

theorem keylessRevocation (h : Sealed t e e') (key : String) (b : Basic) (revocation : KeyRevocation)
    (hb : ∀ a, b.keyless = some a → ∃ att, e.parsed.contexts[a.ctxId]? = some att) :
    e'.keylessRevocation key b revocation (.asOf t) = e.keylessRevocation key b revocation (.asOf t) := by
  cases hk : b.keyless with
  | none =>
    simp only [Engine.keylessRevocation, hk]
    cases b.keylessFailure with
    | none => rfl
    | some failure => cases failure <;> rfl
  | some a =>
    have hwithdrawn : (e'.parsed.contexts[a.ctxId]?).any (fun att =>
          (e'.retraction att (.asOf t)).1.value == .retracted) =
        (e.parsed.contexts[a.ctxId]?).any (fun att => (e.retraction att (.asOf t)).1.value ==
        .retracted) := by
      have hany := congrArg (Option.any (fun s : RetractionStage => s.value == .retracted))
        (h.withdrawn a.ctxId (hb a hk))
      rwa [Option.any_map, Option.any_map] at hany
    simp only [Engine.keylessRevocation, hk]
    cases b.keylessFailure with
    | none => simp only [hwithdrawn]
    | some failure => cases failure <;> rfl

theorem appliedRevocation (h : Sealed t e e') (hc : ContextSealed e.requireAttestedEvents t pc pc')
    (key : String) (b : Basic)
    (hb : ∀ a, b.keyless = some a → ∃ att, e.parsed.contexts[a.ctxId]? = some att) :
    e'.appliedRevocation key pc' b (.asOf t) = e.appliedRevocation key pc b (.asOf t) := by
  simp only [Engine.appliedRevocation, Engine.keylessSignedRevocation, hc.body, h.env, h.keyless,
    h.keylessRevocation key b _ hb]

theorem appliedRevocations (h : Sealed t e e') :
    e'.appliedRevocations (.asOf t) = e.appliedRevocations (.asOf t) := by
  rw [Engine.appliedRevocations, Engine.appliedRevocations]
  refine Entries.filterMap_toList_congr
    (fun k pc => e.appliedRevocation k pc (e.basic k pc (.asOf t)) (.asOf t))
    (fun k pc => e'.appliedRevocation k pc (e'.basic k pc (.asOf t)) (.asOf t)) e.parsed.contexts
    e'.parsed.contexts (fun k => ?_)
  cases hpc : e.parsed.contexts[k]? with
  | none =>
    cases hpc' : e'.parsed.contexts[k]? with
    | none => rw [Option.bind_none, Option.bind_none]
    | some pc' =>
      obtain ⟨r, hr, hlate⟩ := h.late k pc' hpc hpc'
      rw [Option.bind_some, Option.bind_none, e'.appliedRevocation_of_late k pc' t r hr hlate]
  | some pc =>
    obtain ⟨pc', hpc', hc⟩ := h.kept k pc hpc
    rw [hpc', Option.bind_some, Option.bind_some, ← appliedRevocation_withoutReason,
      h.basic k hpc hc, appliedRevocation_withoutReason]
    exact h.appliedRevocation hc k (e.basic k pc (.asOf t)) (e.basic_keyless_mem k pc (.asOf t))

theorem attestationRetraction (h : Sealed t e e') (b : Basic)
    (hb : ∀ a, b.keyless = some a → ∃ att, e.parsed.contexts[a.ctxId]? = some att) :
    e'.attestationRetraction b (.asOf t) = e.attestationRetraction b (.asOf t) := by
  cases hk : b.keyless with
  | none => simp only [Engine.attestationRetraction, hk, Option.bind_eq_bind, Option.bind_none]
  | some a =>
    obtain ⟨att, hatt⟩ := hb a hk
    obtain ⟨att', hatt', hc⟩ := h.kept _ _ hatt
    simp only [Engine.attestationRetraction, hk, hatt, hatt', Option.bind_eq_bind, Option.bind_some,
      h.retraction hc, h.env]

theorem keyRevocation (h : Sealed t e e') (body : Body) (basic : Basic)
    (revocations : List AppliedRevocation) : e'.keyRevocation body basic revocations (.asOf t) =
      e.keyRevocation body basic revocations (.asOf t) := by
  simp only [Engine.keyRevocation, h.env,
    discovered_congr e e' body.agentId t h.env h.pinned (h.discovery body.agentId)]

theorem full (h : Sealed t e e') (hc : ContextSealed e.requireAttestedEvents t pc pc') (basic : Basic)
    (hb : ∀ a, basic.keyless = some a → ∃ att, e.parsed.contexts[a.ctxId]? = some att)
    (revocations : List AppliedRevocation) :
    (e'.full pc' basic revocations (.asOf t)).1 = (e.full pc basic revocations (.asOf t)).1 := by
  have hattestation := h.attestationRetraction basic hb
  unfold Engine.full
  split
  · rfl
  · simp only [h.keyless, hc.body, h.retraction hc, h.log hc, h.keyRevocation, hattestation]

end Engine.Sealed

end Acdp.Chain
