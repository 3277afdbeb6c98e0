import Acdp.Chain.Stages
import Acdp.Foundation.Selection
import Mathlib.Data.Set.Finite.Lemmas
import Mathlib.Data.Set.Finite.List
import Mathlib.Order.Bounds.Basic

namespace Acdp.Chain

open Acdp.Types
open Acdp.Foundation.Selection

namespace Engine

def fingerprintOf (basic : Basic) : Option String :=
  basic.fingerprint <|> basic.receipt.map (·.keyFingerprint)

def names (body : Body) (basic : Basic) (a : AppliedRevocation) : Bool :=
  inScope body a && !a.unevaluated && (fingerprintOf basic).any (fun fp => a.revocation.revokes fp)

def boundaries (body : Body) (basic : Basic) (revocations : List AppliedRevocation) : Set DateTime :=
  { t | ∃ a ∈ revocations, names body basic a = true ∧ a.revocation.compromisedSince = t }

variable (e : Engine) (body : Body) (basic : Basic) (revocations : List AppliedRevocation) (pass : PassAt)

theorem discovered_value (producer : String) :
    (e.discovered producer pass).value = .unknown ∨ (e.discovered producer pass).value = .notRevoked := by
  unfold discovered
  dsimp only
  split
  · exact .inl rfl
  · split
    · exact .inr rfl
    · exact .inl rfl

def evaluated : List AppliedRevocation := (revocations.filter (inScope body)).filter (fun a => !a.unevaluated)

theorem mem_evaluated_of_names (a : AppliedRevocation) (ha : a ∈ revocations)
    (hnames : names body basic a = true) : a ∈ evaluated body revocations ∧
      ∃ fp, fingerprintOf basic = some fp ∧ a.revocation.revokes fp = true := by
  rw [names, Bool.and_eq_true, Bool.and_eq_true, Option.any_eq_true] at hnames
  obtain ⟨⟨hscope, heval⟩, fp, hfp, hrevokes⟩ := hnames
  exact ⟨List.mem_filter.mpr ⟨List.mem_filter.mpr ⟨ha, hscope⟩, heval⟩, fp, hfp, hrevokes⟩

theorem names_of_mem_evaluated (a : AppliedRevocation) (ha : a ∈ evaluated body revocations) (fp : String)
    (hfp : fingerprintOf basic = some fp) (hrevokes : a.revocation.revokes fp = true) :
    a ∈ revocations ∧ names body basic a = true := by
  obtain ⟨ha, heval⟩ := List.mem_filter.mp ha
  obtain ⟨ha, hscope⟩ := List.mem_filter.mp ha
  refine ⟨ha, ?_⟩
  rw [names, hscope, heval, hfp, Option.any_some, hrevokes]
  rfl

theorem boundaries_eq_empty
    (hnone : ∀ fp, fingerprintOf basic = some fp →
      (evaluated body revocations).filter (fun a => a.revocation.revokes fp) = []) :
    boundaries body basic revocations = ∅ := by
  refine Set.eq_empty_iff_forall_notMem.mpr ?_
  rintro t ⟨a, ha, hnames, -⟩
  obtain ⟨hmem, fp, hfp, hrevokes⟩ := mem_evaluated_of_names body basic revocations a ha hnames
  have hin : a ∈ (evaluated body revocations).filter (fun a => a.revocation.revokes fp) :=
    List.mem_filter.mpr ⟨hmem, hrevokes⟩
  rw [hnone fp hfp] at hin
  cases hin

theorem keyRevocation_cases :
    (boundaries body basic revocations = ∅ ∧ ((e.keyRevocation body basic revocations pass).value = .unknown ∨
      (e.keyRevocation body basic revocations pass).value = .notRevoked)) ∨
    ∃ m, IsLeast (boundaries body basic revocations) m ∧
      ((e.keyRevocation body basic revocations pass).value = placement basic.receipt m ∨
        placement basic.receipt m = .preCompromise ∧
          (e.keyRevocation body basic revocations pass).value = .unknown) := by
  generalize hstage : e.keyRevocation body basic revocations pass = stage
  unfold keyRevocation at hstage
  dsimp only at hstage
  have hfingerprint : (basic.fingerprint <|> basic.receipt.map (·.keyFingerprint)) = fingerprintOf basic :=
    rfl
  rw [hfingerprint] at hstage
  change (if evaluated body revocations = [] then _ else _) = _ at hstage
  split at hstage
  next hnone =>
    left
    constructor
    · apply boundaries_eq_empty
      intro fp _
      rw [hnone, List.filter_nil]
    · split at hstage
      next => exact .inl (hstage ▸ rfl)
      next => exact hstage ▸ discovered_value e pass body.agentId
  next =>
    cases hfp : fingerprintOf basic with
    | none =>
      rw [hfp] at hstage
      left
      constructor
      · apply boundaries_eq_empty
        intro fp hsome
        rw [hfp] at hsome
        cases hsome
      · exact .inl (hstage ▸ rfl)
    | some fp =>
      rw [hfp] at hstage
      dsimp only at hstage
      split at hstage
      next hnone =>
        left
        constructor
        · apply boundaries_eq_empty
          intro fp' hfp'
          obtain rfl : fp = fp' := Option.some.inj (hfp.symm.trans hfp')
          exact List.argmin_eq_none.mp hnone
        · split at hstage
          next => exact .inl (hstage ▸ rfl)
          next => exact hstage ▸ discovered_value e pass body.agentId
      next fixing hfixing =>
        obtain ⟨hmem, hleast⟩ := argmin_fst_le fixingRank _ fixing hfixing
        obtain ⟨hmem, hrevokes⟩ := List.mem_filter.mp hmem
        obtain ⟨hin, hnames⟩ := names_of_mem_evaluated body basic revocations fixing hmem fp hfp hrevokes
        refine .inr ⟨fixing.revocation.compromisedSince, ⟨⟨fixing, hin, hnames, rfl⟩, ?_⟩, ?_⟩
        · rintro t ⟨a, ha, hnames', rfl⟩
          obtain ⟨hmem', fp', hfp', hrevokes'⟩ := mem_evaluated_of_names body basic revocations a ha hnames'
          obtain rfl : fp = fp' := Option.some.inj (hfp.symm.trans hfp')
          exact hleast a (List.mem_filter.mpr ⟨hmem', hrevokes'⟩)
        · split at hstage
          next hvalue _ => exact .inr ⟨hvalue, hstage ▸ rfl⟩
          next => exact .inl (hstage ▸ rfl)

theorem placement_eq_revoked_iff (receipt : Option VerifiedReceipt) (m : DateTime) :
    placement receipt m = .revoked ↔ ∃ r, receipt = some r ∧ r.keyStatus = .current ∧ m ≤ r.createdAt := by
  cases receipt with
  | none => simp [placement]
  | some r =>
    cases hstatus : r.keyStatus with
    | historical => simp [placement, hstatus]
    | current =>
      by_cases hbefore : r.createdAt < m
      · simp [placement, hstatus, hbefore]
      · simp [placement, hstatus, not_lt.mp hbefore]

theorem placement_eq_unplaceable_iff (receipt : Option VerifiedReceipt) (m : DateTime) :
    placement receipt m = .unplaceable ↔
      receipt = none ∨ ∃ r, receipt = some r ∧ r.keyStatus = .historical := by
  cases receipt with
  | none => simp [placement]
  | some r =>
    cases hstatus : r.keyStatus with
    | historical => simp [placement, hstatus]
    | current =>
      by_cases hbefore : r.createdAt < m
      · simp [placement, hstatus, hbefore]
      · simp [placement, hstatus, hbefore]

theorem keyRevocation_eq_iff (value : KeyRevocationValue) (hvalue : value = .revoked ∨ value = .unplaceable) :
    (e.keyRevocation body basic revocations pass).value = value ↔
      ∃ m, IsLeast (boundaries body basic revocations) m ∧ placement basic.receipt m = value := by
  rcases keyRevocation_cases e body basic revocations pass with ⟨hempty, hopen⟩ | ⟨m, hm, hplaced⟩
  · rw [hempty]
    refine iff_of_false (fun heq => ?_) (fun ⟨m, hm, _⟩ => hm.1)
    rcases hopen with hopen | hopen <;> rcases hvalue with rfl | rfl <;> cases hopen.symm.trans heq
  · have hunique (m' : DateTime) (hm' : IsLeast (boundaries body basic revocations) m') : m' = m :=
      hm'.unique hm
    rcases hplaced with hplaced | ⟨hbefore, hopen⟩
    · rw [hplaced]
      refine ⟨fun heq => ⟨m, hm, heq⟩, ?_⟩
      rintro ⟨m', hm', heq⟩
      rwa [hunique m' hm'] at heq
    · refine iff_of_false (fun heq => ?_) ?_
      · rcases hvalue with rfl | rfl <;> cases hopen.symm.trans heq
      · rintro ⟨m', hm', heq⟩
        rw [hunique m' hm', hbefore] at heq
        rcases hvalue with rfl | rfl <;> cases heq

theorem exists_isLeast_boundaries (h : (boundaries body basic revocations).Nonempty) :
    ∃ m, IsLeast (boundaries body basic revocations) m := by
  have hfinite : (boundaries body basic revocations).Finite := by
    refine (List.finite_toSet (revocations.map (·.revocation.compromisedSince))).subset ?_
    rintro t ⟨a, ha, -, rfl⟩
    exact List.mem_map.mpr ⟨a, ha, rfl⟩
  obtain ⟨m, hm, hle⟩ := Set.exists_min_image _ id hfinite h
  exact ⟨m, hm, hle⟩

theorem keyRevocation_eq_of_subset (more : List AppliedRevocation) (hmore : revocations ⊆ more)
    (hvalue : (e.keyRevocation body basic revocations pass).value = .revoked ∨
      (e.keyRevocation body basic revocations pass).value = .unplaceable) :
    (e.keyRevocation body basic more pass).value = (e.keyRevocation body basic revocations pass).value := by
  obtain ⟨m, hm, hplaced⟩ := (keyRevocation_eq_iff e body basic revocations pass _ hvalue).mp rfl
  have hboundary : m ∈ boundaries body basic more := by
    obtain ⟨a, ha, hnames, heq⟩ := hm.1
    exact ⟨a, hmore ha, hnames, heq⟩
  obtain ⟨m', hm'⟩ := exists_isLeast_boundaries body basic more ⟨m, hboundary⟩
  rw [keyRevocation_eq_iff e body basic more pass _ hvalue]
  refine ⟨m', hm', ?_⟩
  rw [← hplaced] at hvalue ⊢
  rcases hvalue with hvalue | hvalue
  · obtain ⟨r, hr, hcurrent, hle⟩ := (placement_eq_revoked_iff basic.receipt m).mp hvalue
    rw [hvalue]
    exact (placement_eq_revoked_iff basic.receipt m').mpr ⟨r, hr, hcurrent, (hm'.2 hboundary).trans hle⟩
  · rw [hvalue]
    exact (placement_eq_unplaceable_iff basic.receipt m').mpr
      ((placement_eq_unplaceable_iff basic.receipt m).mp hvalue)

def appliedTo (basic : Basic) (revocations : List AppliedRevocation) (pass : PassAt) :
    List AppliedRevocation :=
  revocations ++ if e.keyless then (e.attestationRetraction basic pass).toList else []

theorem full_keyRevocation (pc : ParsedContext) (hpresent : basic.presence.value = .present) :
    (e.full pc basic revocations pass).1.stages.keyRevocation =
      some (e.keyRevocation pc.body basic (e.appliedTo basic revocations pass) pass) := by
  unfold full
  rw [if_neg (not_not.mpr hpresent)]
  rfl

theorem finish_refused (stages : Stages) (undated : Bool) (kr : KeyRevocationStage)
    (hkr : stages.keyRevocation = some kr) (hvalue : kr.value = .revoked ∨ kr.value = .unplaceable) :
    (finish stages undated).verdict = .refused := by
  have hrefused : stages.refused = true := by
    unfold Stages.refused
    rcases hvalue with hvalue | hvalue <;> simp [hkr, hvalue]
  rw [finish, if_pos hrefused]

theorem full_verdict (pc : ParsedContext) (kr : KeyRevocationStage)
    (hkr : (e.full pc basic revocations pass).1.stages.keyRevocation = some kr)
    (hvalue : kr.value = .revoked ∨ kr.value = .unplaceable) :
    (e.full pc basic revocations pass).1.verdict = .refused := by
  unfold full at hkr ⊢
  split
  next habsent =>
    rw [if_pos habsent] at hkr
    cases hkr
  next hpresent =>
    rw [if_neg hpresent] at hkr
    exact finish_refused _ _ kr hkr hvalue

/-- Revocations refuse exactly from the least boundary on, and none of them takes a refusal back. -/
theorem keyRevocation_fail_closed :
    ((e.keyRevocation body basic revocations pass).value = .revoked ↔
      ∃ r m, basic.receipt = some r ∧ r.keyStatus = .current ∧ IsLeast (boundaries body basic revocations) m ∧
        m ≤ r.createdAt) ∧
    ((e.keyRevocation body basic revocations pass).value = .unplaceable ↔
      (boundaries body basic revocations).Nonempty ∧
        (basic.receipt = none ∨ ∃ r, basic.receipt = some r ∧ r.keyStatus = .historical)) ∧
    ((boundaries body basic revocations).Nonempty → ∃ m, IsLeast (boundaries body basic revocations) m) ∧
    (∀ more, revocations ⊆ more →
      (e.keyRevocation body basic revocations pass).value = .revoked ∨
        (e.keyRevocation body basic revocations pass).value = .unplaceable →
      (e.keyRevocation body basic more pass).value = (e.keyRevocation body basic revocations pass).value) ∧
    ∀ (pc : ParsedContext) (kr : KeyRevocationStage) (more : List AppliedRevocation), revocations ⊆ more →
      (e.full pc basic revocations pass).1.stages.keyRevocation = some kr →
      kr.value = .revoked ∨ kr.value = .unplaceable →
      (e.full pc basic more pass).1.verdict = .refused ∧
        ((e.full pc basic more pass).1.stages.keyRevocation).map (·.value) = some kr.value := by
  refine ⟨?_, ?_, exists_isLeast_boundaries body basic revocations,
    keyRevocation_eq_of_subset e body basic revocations pass, fun pc kr more hmore hkr hvalue => ?_⟩
  · rw [keyRevocation_eq_iff e body basic revocations pass .revoked (.inl rfl)]
    constructor
    · rintro ⟨m, hm, hplaced⟩
      obtain ⟨r, hr, hcurrent, hle⟩ := (placement_eq_revoked_iff basic.receipt m).mp hplaced
      exact ⟨r, m, hr, hcurrent, hm, hle⟩
    · rintro ⟨r, m, hr, hcurrent, hm, hle⟩
      exact ⟨m, hm, (placement_eq_revoked_iff basic.receipt m).mpr ⟨r, hr, hcurrent, hle⟩⟩
  · rw [keyRevocation_eq_iff e body basic revocations pass .unplaceable (.inr rfl)]
    constructor
    · rintro ⟨m, hm, hplaced⟩
      exact ⟨⟨m, hm.1⟩, (placement_eq_unplaceable_iff basic.receipt m).mp hplaced⟩
    · rintro ⟨hsome, hreceipt⟩
      obtain ⟨m, hm⟩ := exists_isLeast_boundaries body basic revocations hsome
      exact ⟨m, hm, (placement_eq_unplaceable_iff basic.receipt m).mpr hreceipt⟩
  · have hpresent : basic.presence.value = .present := by
      by_contra habsent
      unfold full at hkr
      rw [if_pos habsent] at hkr
      cases hkr
    rw [full_keyRevocation e basic revocations pass pc hpresent, Option.some.injEq] at hkr
    subst hkr
    have happlied : e.appliedTo basic revocations pass ⊆ e.appliedTo basic more pass :=
      List.append_subset.mpr ⟨fun a ha => List.mem_append_left _ (hmore ha),
        fun a ha => List.mem_append_right _ ha⟩
    have hkept := keyRevocation_eq_of_subset e pc.body basic _ pass _ happlied hvalue
    have hmoreKr := full_keyRevocation e basic more pass pc hpresent
    refine ⟨full_verdict e basic more pass pc _ hmoreKr (hkept ▸ hvalue), ?_⟩
    rw [hmoreKr, Option.map_some, hkept]

end Engine

end Acdp.Chain
