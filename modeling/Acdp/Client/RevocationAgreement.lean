import Acdp.Chain.SealedSnapshots
import Acdp.Client.RevocationVerdict
import Acdp.Foundation.Selection
import Mathlib.Data.Finset.Max

namespace Acdp.Client

open Acdp.Types
open Acdp.Foundation.Selection
open Acdp.Chain (AppliedRevocation Basic Engine KeyRevocationValue KeyStatus PassAt VerifiedReceipt)

section Expected

variable (R U : Finset KeyRevocation) (fp : String)

def boundaries : Finset DateTime := (R.filter (fun r => r.revokes fp = true)).image (·.compromisedSince)

def Pending : Prop := ∃ u ∈ U, u.revokes fp = true

instance : Decidable (Pending U fp) := inferInstanceAs (Decidable (∃ u ∈ U, u.revokes fp = true))

def expected (placement : Option (DateTime × ReceiptKeyStatus)) : KeyRevocationValue × Option DateTime :=
  if h : (boundaries R fp).Nonempty then
    let boundary := (boundaries R fp).min' h
    match (effectAt placement false boundary).1 with
    | .preCompromise => if Pending U fp then (.unknown, none) else (.preCompromise, some boundary)
    | .revoked => (.revoked, some boundary)
    | .unplaceable => (.unplaceable, some boundary)
  else (.notRevoked, none)

end Expected

def RevocationVerdict.outcome : RevocationVerdict → KeyRevocationValue × Option DateTime
  | .revoked .preCompromise boundary _ _ => (.preCompromise, some boundary)
  | .revoked .revoked boundary _ _ => (.revoked, some boundary)
  | .revoked .unplaceable boundary _ _ => (.unplaceable, some boundary)
  | .notRevoked _ _ _ => (.notRevoked, none)
  | .unknown _ _ => (.unknown, none)

def receiptKeyStatus : KeyStatus → ReceiptKeyStatus
  | .current => .current
  | .historical => .historical

def receiptPlacement (receipt : Option VerifiedReceipt) : Option (DateTime × ReceiptKeyStatus) :=
  receipt.map (fun r => (r.createdAt, receiptKeyStatus r.keyStatus))

/-- The online evidence about `producer` holds the revocations `R` as in scope and `U` as unevaluated, in
some order and from some sources; what it holds besides is out of scope. -/
structure Represents (R U : Finset KeyRevocation) (producer : AgentDid) (gathered : Gathered) : Prop where
  evaluated : ∃ all, gathered.inScope = (scope all producer).1 ∧
    (∀ s ∈ all, s.speaksFor producer = true → ∃ r ∈ R, ∃ source, s = sourced r source) ∧
    ∀ r ∈ R, ∃ source, sourced r source ∈ all
  unevaluated : ∀ fp, (∃ u ∈ gathered.unevaluated, u.fingerprint = fp) ↔ Pending U fp

structure Applies (R U : Finset KeyRevocation) (body : Body) (revocations : List AppliedRevocation) :
    Prop where
  evaluated : ∀ r, r ∈ R ↔ ∃ a ∈ revocations, Engine.inScope body a = true ∧ a.unevaluated = false ∧
    a.revocation = r
  unevaluated : ∀ r, r ∈ U ↔ ∃ a ∈ revocations, Engine.inScope body a = true ∧ a.unevaluated = true ∧
    a.revocation = r

theorem min_boundary_eq (R : Finset KeyRevocation) (fp : String) (r : KeyRevocation) (hr : r ∈ R)
    (hnames : r.revokes fp = true)
    (hleast : ∀ r' ∈ R, r'.revokes fp = true → r.compromisedSince ≤ r'.compromisedSince)
    (h : (boundaries R fp).Nonempty) : (boundaries R fp).min' h = r.compromisedSince := by
  have hmem : r.compromisedSince ∈ boundaries R fp :=
    Finset.mem_image.mpr ⟨r, Finset.mem_filter.mpr ⟨hr, hnames⟩, rfl⟩
  refine le_antisymm (Finset.min'_le _ _ hmem) ?_
  rw [Finset.le_min'_iff]
  intro t ht
  obtain ⟨r', hr', rfl⟩ := Finset.mem_image.mp ht
  obtain ⟨hin, hnames'⟩ := Finset.mem_filter.mp hr'
  exact hleast r' hin hnames'

theorem scope_foldl (agentId : AgentDid) (all : List SourcedRevocation)
    (out : List SourcedRevocation × List SourcedRevocation) :
    (all.foldl (scopeStep agentId) out).1 = out.1 ++ all.filter (fun r => r.speaksFor agentId) := by
  induction all generalizing out with
  | nil => simp
  | cons r rest ih =>
    rw [List.foldl_cons, ih, scopeStep]
    by_cases hspeaks : r.speaksFor agentId = true
    · simp [hspeaks]
    · split
      · next h => exact absurd h hspeaks
      · split <;> simp [hspeaks]

theorem mem_scope_fst (agentId : AgentDid) (all : List SourcedRevocation) (r : SourcedRevocation) :
    r ∈ (scope all agentId).1 ↔ r ∈ all ∧ r.speaksFor agentId = true := by
  rw [scope, scope_foldl, List.nil_append, List.mem_filter]

theorem speaksFor_of_inScope (body : Body) (a : AppliedRevocation) (source : RevocationSource)
    (h : Engine.inScope body a = true) : (sourced a.revocation source).speaksFor body.agentId = true := by
  rw [Engine.inScope, Bool.and_eq_true] at h
  obtain ⟨hcontroller, hpublisher⟩ := h
  cases htrust : a.revocation.trustClass with
  | producerSigned =>
    rw [htrust] at hpublisher
    simpa [SourcedRevocation.speaksFor, sourced, htrust] using hpublisher
  | registryAttested => simpa [SourcedRevocation.speaksFor, sourced, htrust] using hcontroller

section Online

variable {R U : Finset KeyRevocation} {producer : AgentDid} {gathered : Gathered} {fp : String}
  (hgathered : Represents R U producer gathered)
  (hspeaks : ∀ r ∈ R, ∀ source, (sourced r source).speaksFor producer = true)

include hgathered hspeaks

theorem online_fixing (hnamed : ∃ r ∈ R, r.revokes fp = true) :
    ∃ r ∈ R, r.revokes fp = true ∧
      (∀ r' ∈ R, r'.revokes fp = true → r.compromisedSince ≤ r'.compromisedSince) ∧
      ∃ source, (gathered.inScope.filter (fun s => s.revokedKeyFingerprint == fp)).argmin boundaryRank =
        some (sourced r source) := by
  obtain ⟨r₀, hr₀, hnames₀⟩ := hnamed
  obtain ⟨all, hall, hsound, hcomplete⟩ := hgathered.evaluated
  have hkept : ∀ r, r ∈ R → r.revokes fp = true → ∃ source,
      sourced r source ∈ gathered.inScope.filter (fun s => s.revokedKeyFingerprint == fp) := by
    intro r hr hnames
    obtain ⟨source, hsource⟩ := hcomplete r hr
    refine ⟨source, List.mem_filter.mpr ⟨?_, hnames⟩⟩
    rw [hall, mem_scope_fst]
    exact ⟨hsource, hspeaks r hr source⟩
  obtain ⟨source₀, hsource₀⟩ := hkept r₀ hr₀ hnames₀
  cases hfixing : (gathered.inScope.filter (fun s => s.revokedKeyFingerprint == fp)).argmin boundaryRank with
  | none =>
    rw [List.argmin_eq_none] at hfixing
    rw [hfixing] at hsource₀
    cases hsource₀
  | some s =>
    obtain ⟨hs, hmin⟩ := argmin_fst_le boundaryRank _ s hfixing
    obtain ⟨hin, hnames⟩ := List.mem_filter.mp hs
    rw [hall, mem_scope_fst] at hin
    obtain ⟨r, hr, source, rfl⟩ := hsound s hin.1 hin.2
    refine ⟨r, hr, hnames, ?_, source, rfl⟩
    intro r' hr' hnames'
    obtain ⟨source', hsource'⟩ := hkept r' hr' hnames'
    exact hmin _ hsource'

theorem online_outcome (hdiscovery : ∀ e, gathered.discovery ≠ some (.error e))
    (hnamed : ∃ r ∈ R, r.revokes fp = true) (placement : Option (DateTime × ReceiptKeyStatus)) :
    (decide gathered (some fp) placement false).verdict.outcome = expected R U fp placement := by
  obtain ⟨r, hr, hnames, hleast, source, hfixing⟩ := online_fixing hgathered hspeaks hnamed
  have hnonempty : (boundaries R fp).Nonempty :=
    ⟨_, Finset.mem_image.mpr ⟨r, Finset.mem_filter.mpr ⟨hr, hnames⟩, rfl⟩⟩
  have hunknown : unknownVerdict (discoveryFor gathered (some fp)) =
      (gathered.unevaluated.find? (fun u => u.fingerprint == fp)).map
        (fun u => .unknown .unverifiableCandidate u.detail) := by
    rw [discoveryFor]
    split
    · next e he => exact absurd he (hdiscovery e)
    · rw [Option.bind_some]
      split
      · next u hu =>
        rw [hu]
        rfl
      · next hnone =>
        rw [hnone]
        cases hd : gathered.discovery with
        | none => rfl
        | some d =>
          cases d with
          | error e => exact absurd hd (hdiscovery e)
          | ok o => rfl
  have hpending : (gathered.unevaluated.find? (fun u => u.fingerprint == fp)).isSome = true ↔
      Pending U fp := by
    rw [← hgathered.unevaluated fp, List.find?_isSome]
    simp only [beq_iff_eq]
  rw [expected, dif_pos hnonempty, min_boundary_eq R fp r hr hnames hleast hnonempty]
  simp only [decide, Option.bind_some, hfixing, Option.map_some, hunknown]
  rw [namedVerdict, show (sourced r source).compromisedSince = r.compromisedSince from rfl]
  cases hfind : gathered.unevaluated.find? (fun u => u.fingerprint == fp) with
  | none =>
    have hfree : ¬ Pending U fp := by
      rw [← hpending, hfind]
      decide
    rw [Option.map_none]
    dsimp only
    cases heffect : (effectAt placement false r.compromisedSince).1 with
    | preCompromise => simp [RevocationVerdict.outcome, hfree]
    | revoked => simp [RevocationVerdict.outcome]
    | unplaceable => simp [RevocationVerdict.outcome]
  | some u =>
    have hheld : Pending U fp := by
      rw [← hpending, hfind]
      rfl
    rw [Option.map_some]
    dsimp only
    cases heffect : (effectAt placement false r.compromisedSince).1 with
    | preCompromise => simp [RevocationVerdict.isRefusal, RevocationVerdict.outcome, hheld]
    | revoked => simp [RevocationVerdict.isRefusal, RevocationVerdict.outcome]
    | unplaceable => simp [RevocationVerdict.isRefusal, RevocationVerdict.outcome]

end Online

section Offline

variable (e : Engine) {R U : Finset KeyRevocation} {body : Body}
    {revocations : List AppliedRevocation} {fp : String} (happlies : Applies R U body revocations)

include happlies

theorem offline_fixing (hnamed : ∃ r ∈ R, r.revokes fp = true) :
    ∃ a ∈ revocations, Engine.inScope body a = true ∧ a.unevaluated = false ∧ a.revocation.revokes fp = true ∧
      (∀ r' ∈ R, r'.revokes fp = true → a.revocation.compromisedSince ≤ r'.compromisedSince) ∧
      (((revocations.filter (Engine.inScope body)).filter (fun a => !a.unevaluated)).filter
        (fun a => a.revocation.revokes fp)).argmin Engine.fixingRank = some a := by
  obtain ⟨r₀, hr₀, hnames₀⟩ := hnamed
  have hkept : ∀ r, r ∈ R → r.revokes fp = true → ∃ a, a.revocation = r ∧
      a ∈ ((revocations.filter (Engine.inScope body)).filter (fun a => !a.unevaluated)).filter
        (fun a => a.revocation.revokes fp) := by
    intro r hr hnames
    obtain ⟨a, ha, hin, heval, rfl⟩ := (happlies.evaluated r).mp hr
    refine ⟨a, rfl, ?_⟩
    simp only [List.mem_filter, ha, hin, heval, hnames, Bool.not_false, and_self]
  obtain ⟨a₀, -, ha₀⟩ := hkept r₀ hr₀ hnames₀
  cases hfixing : (((revocations.filter (Engine.inScope body)).filter (fun a => !a.unevaluated)).filter
      (fun a => a.revocation.revokes fp)).argmin Engine.fixingRank with
  | none =>
    rw [List.argmin_eq_none] at hfixing
    rw [hfixing] at ha₀
    cases ha₀
  | some a =>
    obtain ⟨ha, hmin⟩ := argmin_fst_le Engine.fixingRank _ a hfixing
    have ha' := ha
    simp only [List.mem_filter, Bool.not_eq_true'] at ha'
    obtain ⟨⟨⟨hmem, hin⟩, heval⟩, hnames⟩ := ha'
    refine ⟨a, hmem, hin, heval, hnames, ?_, rfl⟩
    intro r' hr' hnames'
    obtain ⟨a', rfl, ha'⟩ := hkept r' hr' hnames'
    exact hmin a' ha'

theorem offline_pending :
    (((revocations.filter (Engine.inScope body)).filter
      (fun a => a.unevaluated && a.revocation.revokes fp)).map (·.ctxId)).min?.isSome = true ↔
        Pending U fp := by
  rw [List.isSome_min?_iff, ne_eq, List.map_eq_nil_iff, List.filter_eq_nil_iff]
  simp only [List.mem_filter, Bool.and_eq_true, not_forall, not_not]
  constructor
  · rintro ⟨a, ⟨ha, hin⟩, hunevaluated, hnames⟩
    exact ⟨a.revocation, (happlies.unevaluated _).mpr ⟨a, ha, hin, hunevaluated, rfl⟩, hnames⟩
  · rintro ⟨r, hr, hnames⟩
    obtain ⟨a, ha, hin, hunevaluated, rfl⟩ := (happlies.unevaluated r).mp hr
    exact ⟨a, ⟨ha, hin⟩, hunevaluated, hnames⟩

theorem offline_outcome {basic : Basic}
    (hfp : (basic.fingerprint <|> basic.receipt.map (·.keyFingerprint)) = some fp)
    (hnamed : ∃ r ∈ R, r.revokes fp = true) (pass : PassAt) :
    (e.keyRevocation body basic revocations pass).value =
        (expected R U fp (receiptPlacement basic.receipt)).1 ∧
      ∀ boundary, (expected R U fp (receiptPlacement basic.receipt)).2 = some boundary →
        ∃ a ∈ revocations, Engine.inScope body a = true ∧ a.unevaluated = false ∧
        a.revocation.revokes fp = true ∧ a.revocation.compromisedSince = boundary ∧
          (e.keyRevocation body basic revocations pass).revocationCtxId = some a.ctxId := by
  obtain ⟨a, ha, hin, heval, hnames, hleast, hfixing⟩ := offline_fixing happlies hnamed
  have hpending : _ ↔ Pending U fp := offline_pending happlies
  have hr : a.revocation ∈ R := (happlies.evaluated _).mpr ⟨a, ha, hin, heval, rfl⟩
  have hnonempty : (boundaries R fp).Nonempty :=
    ⟨_, Finset.mem_image.mpr ⟨a.revocation, Finset.mem_filter.mpr ⟨hr, hnames⟩, rfl⟩⟩
  have hsome : (revocations.filter (Engine.inScope body)).filter (fun a => !a.unevaluated) ≠ [] := by
    refine List.ne_nil_of_mem (a := a) ?_
    simp only [List.mem_filter, ha, hin, heval, Bool.not_false, and_self]
  have hplaced : Engine.placement basic.receipt a.revocation.compromisedSince =
      match (effectAt (receiptPlacement basic.receipt) false a.revocation.compromisedSince).1 with
      | .preCompromise => .preCompromise
      | .revoked => .revoked
      | .unplaceable => .unplaceable := by
    cases hreceipt : basic.receipt with
    | none => rfl
    | some r =>
      cases hstatus : r.keyStatus with
      | historical => simp [Engine.placement, effectAt, receiptPlacement, receiptKeyStatus, hstatus]
      | current =>
        by_cases hlt : r.createdAt < a.revocation.compromisedSince
        · simp [Engine.placement, effectAt, receiptPlacement, receiptKeyStatus, hstatus, hlt]
        · simp [Engine.placement, effectAt, receiptPlacement, receiptKeyStatus, hstatus, hlt]
  rw [expected, dif_pos hnonempty, min_boundary_eq R fp a.revocation hr hnames hleast hnonempty]
  simp only [Engine.keyRevocation, hfp, Option.bind_some, if_neg hsome, hfixing, hplaced]
  cases heffect : (effectAt (receiptPlacement basic.receipt) false a.revocation.compromisedSince).1 with
  | revoked => exact ⟨rfl, fun b hb => ⟨a, ha, hin, heval, hnames, Option.some.inj hb, rfl⟩⟩
  | unplaceable => exact ⟨rfl, fun b hb => ⟨a, ha, hin, heval, hnames, Option.some.inj hb, rfl⟩⟩
  | preCompromise =>
    cases hmin : (((revocations.filter (Engine.inScope body)).filter
        (fun a => a.unevaluated && a.revocation.revokes fp)).map (·.ctxId)).min? with
    | none =>
      have hfree : ¬ Pending U fp := by
        rw [← hpending, hmin]
        decide
      dsimp only
      rw [if_neg hfree]
      exact ⟨rfl, fun b hb => ⟨a, ha, hin, heval, hnames, Option.some.inj hb, rfl⟩⟩
    | some ctxId =>
      have hheld : Pending U fp := by
        rw [← hpending, hmin]
        rfl
      dsimp only
      rw [if_pos hheld]
      exact ⟨rfl, fun b hb => absurd hb (by simp)⟩

end Offline

theorem expected_refusal_stands (R R' U U' : Finset KeyRevocation) (fp : String)
    (placement : Option (DateTime × ReceiptKeyStatus)) (hR : R ⊆ R') (value : KeyRevocationValue)
    (hvalue : value = .revoked ∨ value = .unplaceable) (h : (expected R U fp placement).1 = value) :
    (expected R' U' fp placement).1 = value := by
  rw [expected] at h
  split at h
  · next hne =>
    have hsub : boundaries R fp ⊆ boundaries R' fp :=
      Finset.image_subset_image (Finset.filter_subset_filter _ hR)
    have hne' : (boundaries R' fp).Nonempty := hne.mono hsub
    have hle : (boundaries R' fp).min' hne' ≤ (boundaries R fp).min' hne := Finset.min'_subset hne hsub
    rw [expected, dif_pos hne']
    have hsame : (effectAt placement false ((boundaries R fp).min' hne)).1 ≠ .preCompromise →
        (effectAt placement false ((boundaries R' fp).min' hne')).1 =
          (effectAt placement false ((boundaries R fp).min' hne)).1 := by
      intro hother
      cases placement with
      | none => rfl
      | some p =>
        obtain ⟨t, status⟩ := p
        cases status with
        | historical => simp [effectAt]
        | current =>
          have hnot : ¬ t < (boundaries R fp).min' hne := by
            intro hlt
            exact hother (by simp [effectAt, hlt])
          have hnot' : ¬ t < (boundaries R' fp).min' hne' := fun hlt => hnot (lt_of_lt_of_le hlt hle)
          simp [effectAt, hnot, hnot']
    dsimp only at h ⊢
    cases heffect : (effectAt placement false ((boundaries R fp).min' hne)).1 with
    | preCompromise =>
      rw [heffect] at h
      dsimp only at h
      split at h <;> rcases hvalue with rfl | rfl <;> cases h
    | revoked =>
      rw [heffect] at h
      rw [hsame (by rw [heffect]; decide), heffect]
      exact h
    | unplaceable =>
      rw [heffect] at h
      rw [hsame (by rw [heffect]; decide), heffect]
      exact h
  · rcases hvalue with rfl | rfl <;> cases h

theorem expected_unknown_iff (R U : Finset KeyRevocation) (fp : String)
    (placement : Option (DateTime × ReceiptKeyStatus)) :
    (expected R U fp placement).1 = .unknown ↔ (expected R ∅ fp placement).1 = .preCompromise ∧
      Pending U fp := by
  have hfree : ¬ Pending ∅ fp := by
    rintro ⟨u, hu, -⟩
    exact Finset.notMem_empty u hu
  rw [expected, expected]
  split
  · next hne =>
    dsimp only
    cases (effectAt placement false ((boundaries R fp).min' hne)).1 with
    | preCompromise =>
      by_cases hpending : Pending U fp
      · simp [hpending]
      · simp [hpending]
    | revoked => simp
    | unplaceable => simp
  · simp

structure SameEvidence (R U : Finset KeyRevocation) (body : Body) (gathered : Gathered)
    (revocations : List AppliedRevocation) : Prop where
  online : Represents R U body.agentId gathered
  discovered : ∀ e, gathered.discovery ≠ some (.error e)
  offline : Applies R U body revocations

structure Agreed (R U : Finset KeyRevocation) (fp : String) (e : Engine) (body : Body) (basic : Basic)
    (gathered : Gathered) (revocations : List AppliedRevocation) (pass : PassAt) : Prop where
  online : (decide gathered (some fp) (receiptPlacement basic.receipt) false).verdict.outcome =
    expected R U fp (receiptPlacement basic.receipt)
  offline : (e.keyRevocation body basic revocations pass).value =
    (expected R U fp (receiptPlacement basic.receipt)).1
  boundary : ∀ boundary, (expected R U fp (receiptPlacement basic.receipt)).2 = some boundary →
    ∃ a ∈ revocations, Engine.inScope body a = true ∧ a.unevaluated = false ∧ a.revocation.revokes fp = true ∧
      a.revocation.compromisedSince = boundary ∧
      (e.keyRevocation body basic revocations pass).revocationCtxId = some a.ctxId

theorem agreed_of_same {R U : Finset KeyRevocation} {fp : String} (e : Engine) {body : Body} {basic : Basic}
    {gathered : Gathered} {revocations : List AppliedRevocation} (pass : PassAt)
    (hsame : SameEvidence R U body gathered revocations)
    (hfp : (basic.fingerprint <|> basic.receipt.map (·.keyFingerprint)) = some fp)
    (hnamed : ∃ r ∈ R, r.revokes fp = true) : Agreed R U fp e body basic gathered revocations pass := by
  have hspeaks : ∀ r ∈ R, ∀ source, (sourced r source).speaksFor body.agentId = true := by
    intro r hr source
    obtain ⟨a, -, hin, -, rfl⟩ := (hsame.offline.evaluated r).mp hr
    exact speaksFor_of_inScope body a source hin
  obtain ⟨hvalue, hboundary⟩ := offline_outcome e hsame.offline hfp hnamed pass
  exact ⟨online_outcome hsame.online hspeaks hsame.discovered hnamed _, hvalue, hboundary⟩

/-- The online and the offline decider give the outcome of the sets of evidence, so the same one whatever
the order; it is unknown exactly where an acceptance meets unevaluated evidence, and more evidence never
lifts a refusal. -/
theorem revocation_deciders_agree (e : Engine) (body : Body) (basic : Basic) (fp : String) (pass : PassAt)
    (hfp : (basic.fingerprint <|> basic.receipt.map (·.keyFingerprint)) = some fp)
    (R U : Finset KeyRevocation) (hnamed : ∃ r ∈ R, r.revokes fp = true)
    (gathered : Gathered) (revocations : List AppliedRevocation)
    (hsame : SameEvidence R U body gathered revocations) :
    let online := (decide gathered (some fp) (receiptPlacement basic.receipt) false).verdict.outcome
    let offline := e.keyRevocation body basic revocations pass
    Agreed R U fp e body basic gathered revocations pass ∧
    offline.value = online.1 ∧
    (online.1 = .revoked ∨ online.1 = .preCompromise ∨ online.1 = .unplaceable ∨ online.1 = .unknown) ∧
    (online.1 ≠ .unknown → ∃ h, online.2 = some ((boundaries R fp).min' h)) ∧
    (online.1 = .unknown ↔ (expected R ∅ fp (receiptPlacement basic.receipt)).1 = .preCompromise ∧
    Pending U fp) ∧
    (∀ gathered' revocations', SameEvidence R U body gathered' revocations' →
      (decide gathered' (some fp) (receiptPlacement basic.receipt) false).verdict.outcome = online ∧
      (e.keyRevocation body basic revocations' pass).value = offline.value) ∧
    ∀ R' U', R ⊆ R' → U ⊆ U' → ∀ gathered' revocations', SameEvidence R' U' body gathered' revocations' →
      ∀ value, value = .revoked ∨ value = .unplaceable → online.1 = value →
        (decide gathered' (some fp) (receiptPlacement basic.receipt) false).verdict.outcome.1 = value ∧
        (e.keyRevocation body basic revocations' pass).value = value := by
  have hagreed := agreed_of_same e pass hsame hfp hnamed
  have hnonempty : (boundaries R fp).Nonempty := by
    obtain ⟨r, hr, hnames⟩ := hnamed
    exact ⟨_, Finset.mem_image.mpr ⟨r, Finset.mem_filter.mpr ⟨hr, hnames⟩, rfl⟩⟩
  dsimp only
  refine ⟨hagreed, ?_, ?_, ?_, ?_, ?_, ?_⟩
  · rw [hagreed.offline, hagreed.online]
  · rw [hagreed.online, expected, dif_pos hnonempty]
    dsimp only
    split
    · split <;> simp
    · simp
    · simp
  · rw [hagreed.online, expected, dif_pos hnonempty]
    dsimp only
    intro hknown
    refine ⟨hnonempty, ?_⟩
    cases heffect : (effectAt (receiptPlacement basic.receipt) false
      ((boundaries R fp).min' hnonempty)).1 with
    | preCompromise =>
      rw [heffect] at hknown
      by_cases hpending : Pending U fp
      · simp [hpending] at hknown
      · simp [hpending]
    | revoked => rfl
    | unplaceable => rfl
  · rw [hagreed.online]
    exact expected_unknown_iff R U fp _
  · intro gathered' revocations' hsame'
    have hagreed' := agreed_of_same e pass hsame' hfp hnamed
    rw [hagreed'.online, hagreed'.offline, hagreed.online, hagreed.offline]
    exact ⟨rfl, rfl⟩
  · intro R' U' hR hU gathered' revocations' hsame' value hvalue hrefused
    obtain ⟨r, hr, hnames⟩ := hnamed
    have hagreed' := agreed_of_same e pass hsame' hfp ⟨r, hR hr, hnames⟩
    rw [hagreed.online] at hrefused
    have hstands := expected_refusal_stands R R' U U' fp _ hR value hvalue hrefused
    rw [hagreed'.online, hagreed'.offline]
    exact ⟨hstands, hstands⟩

def attestedRevocation (trustClass : RevocationTrustClass) (publisher : AgentDid) (since : DateTime) :
    KeyRevocation where
  revokedKeyFingerprint := Acdp.Chain.sampleFingerprint
  compromisedSince := since
  reason := none
  revokedKeyId := none
  revokedKeyController := Acdp.Chain.sampleBody.agentId
  publisher := publisher
  trustClass := trustClass
  ctxId := none

def ownRevocation : KeyRevocation :=
  attestedRevocation .producerSigned "did:web:agents.example" (Acdp.Chain.sampleTime 1769000000)

def registryRevocation : KeyRevocation :=
  attestedRevocation .registryAttested "did:web:registry.example" (Acdp.Chain.sampleTime 1768000000)

def keylessRevocation : KeyRevocation :=
  attestedRevocation .producerSigned "did:web:agents.example" (Acdp.Chain.sampleTime 1767000000)

def sampleGathered : Gathered where
  inScope := [sourced ownRevocation .known, sourced registryRevocation (.discovered "registry.example")]
  hints := []
  discovery := some (.ok ⟨1, some 1⟩)
  complete := true
  registryAttestedChecked := true
  observedAt := none
  onFailure := .failClosed
  unevaluated := [⟨Acdp.Chain.sampleFingerprint, "keyless"⟩]

def sampleApplied : List AppliedRevocation :=
  [⟨"c", keylessRevocation, none, true⟩, ⟨"b", registryRevocation, none, false⟩,
    ⟨"a", ownRevocation, none, false⟩]

def sampleEngine : Engine where
  env := Acdp.Chain.sampleEnv
  keyless := true
  parsed := ⟨∅, ∅, ∅, [], ∅⟩
  keys := ⟨∅⟩
  pinned := Acdp.Chain.Pinned.default
  requireAttestedEvents := false
  keylessAttesters := []

def sampleBasic : Basic where
  presence := ⟨.present, none, none⟩
  undated := false
  identity := ⟨.ok, none, none⟩
  contentHash := ⟨.ok, .registry⟩
  signature := some ⟨.ok, some .registry⟩
  receiptStage := ⟨.ok, some .current, some .registry, none, none⟩
  receipt := some ⟨Acdp.Chain.sampleTime 1768500000, .current, .registry, Acdp.Chain.sampleFingerprint, none⟩
  key := ⟨.current, some .registry, none, none⟩
  fingerprint := some Acdp.Chain.sampleFingerprint
  keyless := none
  keylessFailure := none

theorem sample_sameEvidence : SameEvidence {ownRevocation, registryRevocation} {keylessRevocation}
    Acdp.Chain.sampleBody sampleGathered sampleApplied := by
  refine ⟨⟨⟨sampleGathered.inScope, by decide +kernel, ?_, ?_⟩, ?_⟩, ?_, ⟨?_, ?_⟩⟩
  · intro s hs _
    simp only [sampleGathered, List.mem_cons, List.not_mem_nil, or_false] at hs
    rcases hs with rfl | rfl
    · exact ⟨ownRevocation, by simp, _, rfl⟩
    · exact ⟨registryRevocation, by simp, _, rfl⟩
  · intro r hr
    simp only [Finset.mem_insert, Finset.mem_singleton] at hr
    rcases hr with rfl | rfl
    · exact ⟨_, List.mem_cons_self⟩
    · exact ⟨_, List.mem_cons_of_mem _ List.mem_cons_self⟩
  · intro fp
    simp [sampleGathered, Pending, KeyRevocation.revokes, keylessRevocation, attestedRevocation]
  · intro e he
    cases he
  · intro r
    simp only [Finset.mem_insert, Finset.mem_singleton]
    constructor
    · rintro (rfl | rfl)
      · exact ⟨⟨"a", ownRevocation, none, false⟩, by simp [sampleApplied], by decide +kernel, rfl, rfl⟩
      · exact ⟨⟨"b", registryRevocation, none, false⟩, by simp [sampleApplied], by decide +kernel, rfl, rfl⟩
    · rintro ⟨a, ha, -, heval, rfl⟩
      simp only [sampleApplied, List.mem_cons, List.not_mem_nil, or_false] at ha
      rcases ha with rfl | rfl | rfl
      · cases heval
      · exact .inr rfl
      · exact .inl rfl
  · intro r
    rw [Finset.mem_singleton]
    constructor
    · rintro rfl
      exact ⟨⟨"c", keylessRevocation, none, true⟩, by simp [sampleApplied], by decide +kernel, rfl, rfl⟩
    · rintro ⟨a, ha, -, hunevaluated, rfl⟩
      simp only [sampleApplied, List.mem_cons, List.not_mem_nil, or_false] at ha
      rcases ha with rfl | rfl | rfl
      · rfl
      · cases hunevaluated
      · cases hunevaluated

theorem sampleRevocations_agree :
    (decide sampleGathered (some Acdp.Chain.sampleFingerprint) (receiptPlacement sampleBasic.receipt)
        false).verdict.outcome = (.revoked, some (Acdp.Chain.sampleTime 1768000000)) ∧
      (sampleEngine.keyRevocation Acdp.Chain.sampleBody sampleBasic sampleApplied .latest).value =
        .revoked := by
  have h := revocation_deciders_agree sampleEngine Acdp.Chain.sampleBody sampleBasic
    Acdp.Chain.sampleFingerprint .latest
    rfl {ownRevocation, registryRevocation} {keylessRevocation} ⟨ownRevocation, by simp, by decide +kernel⟩
      sampleGathered
    sampleApplied sample_sameEvidence
  have honline : (decide sampleGathered (some Acdp.Chain.sampleFingerprint)
    (receiptPlacement sampleBasic.receipt) false).verdict.outcome =
    (.revoked, some (Acdp.Chain.sampleTime 1768000000)) := by decide +kernel
  refine ⟨honline, ?_⟩
  rw [h.2.1, honline]

end Acdp.Client
