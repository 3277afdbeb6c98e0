import Acdp.SafeHttp.Embedded

namespace Acdp.SafeHttp

open Acdp.Types
open Acdp.Foundation (AddressBlock)

def Blocked : IpAddr → Prop
  | .v4 ip => ∃ block ∈ forbiddenV4, block.contains ip.toNat
  | .v6 ip => ∃ block ∈ forbiddenV6, block.contains ip.toNat

instance : DecidablePred Blocked
  | .v4 ip => inferInstanceAs (Decidable (∃ block ∈ forbiddenV4, block.contains ip.toNat))
  | .v6 ip => inferInstanceAs (Decidable (∃ block ∈ forbiddenV6, block.contains ip.toNat))

def mappedUnspecified : IpAddr := .v6 Ipv4Addr.unspecified.mapped

theorem eq_mapped_unspecified_iff (ip : Ipv6Addr) :
    ip = Ipv4Addr.unspecified.mapped ↔ ip.highNat = 0xffff ∧ ip.lowV4.isUnspecified := by
  constructor
  · rintro rfl
    decide
  · rintro ⟨hhigh, hlow⟩
    obtain ⟨hzero, h5⟩ := ip.highNat_eq_mapped.mp hhigh
    obtain ⟨h6, h7⟩ := ip.lowV4_isUnspecified_iff.mp hlow
    simp only [Ipv6Addr.segments, List.take_succ_cons, List.take_zero, List.cons.injEq, and_true] at hzero
    obtain ⟨h0, h1, h2, h3, h4⟩ := hzero
    exact Ipv6Addr.ext h0 h1 h2 h3 h4 h5 h6 h7

theorem isUnspecified_of_low (ip : Ipv6Addr) (hhigh : ip.highNat = 0) (hlow : ip.lowV4.isUnspecified) :
    ip.isUnspecified := by
  obtain ⟨hzero, h5⟩ := ip.highNat_eq_zero.mp hhigh
  obtain ⟨h6, h7⟩ := ip.lowV4_isUnspecified_iff.mp hlow
  simp only [Ipv6Addr.segments, List.take_succ_cons, List.take_zero, List.cons.injEq, and_true] at hzero
  obtain ⟨h0, h1, h2, h3, h4⟩ := hzero
  simp [Ipv6Addr.isUnspecified, Ipv6Addr.segments, h0, h1, h2, h3, h4, h5, h6, h7]

theorem classifyNativeV6_of_zero (ip : Ipv6Addr) (h0 : ip.s0 = 0) :
    classifyNativeV6 ip = none ∧ ip.isMulticast = false := by
  simp [classifyNativeV6, Ipv6Addr.isMulticast, h0]

theorem classifyUnsafeV6_isSome_iff (ip : Ipv6Addr) :
    (classifyUnsafeV6 ip).isSome ↔ Blocked (.v6 ip) ∧ ip ≠ Ipv4Addr.unspecified.mapped := by
  have hblocked : Blocked (.v6 ip) ↔
      (ip.isLoopback ∨ ip.isUnspecified ∨ ip.isMulticast ∨ (classifyNativeV6 ip).isSome) ∨
        (ip.highNat = 0 ∨ ip.highNat = 0xffff) ∧ (classifyUnsafeV4 ip.lowV4).isSome := by
    simp only [Blocked, forbiddenV6, List.mem_append, or_and_right, exists_or, exists_native_iff,
      exists_embedded_iff, or_assoc]
  rw [hblocked, classifyUnsafeV6, Ne, eq_mapped_unspecified_iff]
  have hembed : (ip.segments.take 5 = [0, 0, 0, 0, 0] ∧ (ip.s5 = 0 ∨ ip.s5 = 0xffff) ∧
      ¬ ip.lowV4.isUnspecified) ↔ (ip.highNat = 0 ∨ ip.highNat = 0xffff) ∧ ¬ ip.lowV4.isUnspecified := by
    rw [ip.highNat_eq_zero, ip.highNat_eq_mapped]
    tauto
  by_cases hloop : ip.isLoopback
  · have hlow : ¬ ip.lowV4.isUnspecified := by
      simp only [Ipv6Addr.isLoopback, Ipv6Addr.segments, beq_iff_eq, List.cons.injEq, and_true] at hloop
      rw [ip.lowV4_isUnspecified_iff]
      simp [hloop]
    simp [hloop, hlow]
  · rw [if_neg hloop]
    by_cases hreserved : ip.isUnspecified ∨ ip.isMulticast
    · have hne : ¬ (ip.highNat = 0xffff ∧ ip.lowV4.isUnspecified) := by
        rw [← eq_mapped_unspecified_iff]
        rintro rfl
        revert hreserved
        decide
      rw [if_pos hreserved]
      simp only [Option.isSome_some, true_iff]
      exact ⟨.inl (.inr (or_assoc.mp (.inl hreserved))), hne⟩
    · rw [if_neg hreserved]
      rw [not_or] at hreserved
      by_cases hv4 : (ip.highNat = 0 ∨ ip.highNat = 0xffff) ∧ ¬ ip.lowV4.isUnspecified
      · have hzero : ip.s0 = 0 := by
          have htake := (hembed.mpr hv4).1
          simp only [Ipv6Addr.segments, List.take_succ_cons, List.cons.injEq] at htake
          exact htake.1
        rw [if_pos (hembed.mpr hv4)]
        simp [hloop, hreserved, hv4, (classifyNativeV6_of_zero ip hzero).1]
      · rw [if_neg (fun h => hv4 (hembed.mp h))]
        simp only [hloop, hreserved, false_or, Bool.false_eq_true]
        constructor
        · intro hnative
          refine ⟨.inl hnative, ?_⟩
          rw [← eq_mapped_unspecified_iff]
          rintro rfl
          revert hnative
          decide
        · rintro ⟨hnative | ⟨hhigh, hsome⟩, hne⟩
          · exact hnative
          · exfalso
            have hlow : ip.lowV4.isUnspecified = true := by
              by_contra hlow
              exact hv4 ⟨hhigh, hlow⟩
            rcases hhigh with hhigh | hhigh
            · exact hreserved.1 (isUnspecified_of_low ip hhigh hlow)
            · exact hne ⟨hhigh, hlow⟩

theorem classifyIp_default_isOk_iff (ip : IpAddr) :
    (SsrfPolicy.default.classifyIp ip).isOk ↔ ¬ (Blocked ip ∧ ip ≠ mappedUnspecified) := by
  cases ip with
  | v4 ip =>
    have hrefused : (classifyUnsafeV4 ip).isSome ↔ Blocked (.v4 ip) := classifyUnsafeV4_isSome_iff ip
    have hne : IpAddr.v4 ip ≠ mappedUnspecified := by simp [mappedUnspecified]
    simp only [hne, not_false_eq_true, ne_eq, and_true, ← hrefused, SsrfPolicy.classifyIp, SsrfPolicy.default,
      Bool.false_and, Bool.false_eq_true, if_false]
    cases classifyUnsafeV4 ip <;> simp [Except.isOk, Except.toBool]
  | v6 ip =>
    have hrefused := classifyUnsafeV6_isSome_iff ip
    simp only [mappedUnspecified, ne_eq, IpAddr.v6.injEq]
    rw [← Ne, ← hrefused]
    simp only [SsrfPolicy.classifyIp, SsrfPolicy.default, Bool.false_and, Bool.false_eq_true, if_false]
    cases classifyUnsafeV6 ip <;> simp [Except.isOk, Except.toBool]

theorem rejectIfAnyForbidden_isOk_iff (policy : SsrfPolicy) (host : String) (candidates : List SocketAddr) :
    (rejectIfAnyForbidden policy host candidates).isOk ↔
      ∀ addr ∈ candidates, (policy.classifyIp addr.ip).isOk := by
  induction candidates with
  | nil => simp [rejectIfAnyForbidden, Except.isOk, Except.toBool]
  | cons addr rest ih =>
    rw [rejectIfAnyForbidden, List.forall_mem_cons, ← ih, SsrfPolicy.checkIp]
    cases policy.classifyIp addr.ip <;> simp [Except.mapError, Except.isOk, Except.toBool]

theorem rejectIfAnyForbidden_perm (policy : SsrfPolicy) (host : String)
    (candidates reordered : List SocketAddr) (h : reordered.Perm candidates) :
    (rejectIfAnyForbidden policy host reordered).isOk =
    (rejectIfAnyForbidden policy host candidates).isOk := by
  rw [Bool.eq_iff_iff, rejectIfAnyForbidden_isOk_iff, rejectIfAnyForbidden_isOk_iff]
  constructor
  · intro hall addr haddr
    exact hall addr (h.mem_iff.mpr haddr)
  · intro hall addr haddr
    exact hall addr (h.mem_iff.mp haddr)

theorem rejectIfAnyForbidden_error (policy : SsrfPolicy) (host : String) (candidates : List SocketAddr)
    (e : AcdpError) (h : rejectIfAnyForbidden policy host candidates = .error e) : ∃ message,
      e = .schemaViolation message := by
  induction candidates with
  | nil => cases h
  | cons addr rest ih =>
    rw [rejectIfAnyForbidden] at h
    split at h
    · cases h
      exact ⟨_, rfl⟩
    · exact ih h

theorem nat64_native (v4 : Ipv4Addr) : (classifyNativeV6 v4.nat64).isSome := by
  simp [classifyNativeV6, Ipv4Addr.nat64]

theorem blocked_of_form (v4 : Ipv4Addr) (ip : IpAddr) (hrefused : (classifyUnsafeV4 v4).isSome)
    (hform : ip ∈ v4.forms) : Blocked ip := by
  have hlow : ∀ v6 : Ipv6Addr, v6.s6 = v4.high → v6.s7 = v4.low → (classifyUnsafeV4 v6.lowV4).isSome := by
    intro v6 h6 h7
    rw [v6.lowV4_of_segments v4 h6 h7]
    exact hrefused
  simp only [Ipv4Addr.forms, List.mem_cons, List.not_mem_nil, or_false] at hform
  rcases hform with rfl | rfl | rfl | rfl
  · exact (classifyUnsafeV4_isSome_iff v4).mp hrefused
  · obtain ⟨block, hblock, hcontains⟩ :=
      (exists_embedded_iff 0xffff v4.mapped).mpr
        ⟨v4.mapped.highNat_eq_mapped.mpr ⟨rfl, rfl⟩, hlow v4.mapped rfl rfl⟩
    exact ⟨block, List.mem_append_right _ hblock, hcontains⟩
  · obtain ⟨block, hblock, hcontains⟩ :=
      (exists_embedded_iff 0 v4.compatible).mpr
        ⟨v4.compatible.highNat_eq_zero.mpr ⟨rfl, rfl⟩, hlow v4.compatible rfl rfl⟩
    exact ⟨block, List.mem_append_left _ (List.mem_append_right _ hblock), hcontains⟩
  · obtain ⟨block, hblock, hcontains⟩ :=
      (exists_native_iff v4.nat64).mpr (.inr (.inr (.inr (nat64_native v4))))
    exact ⟨block, List.mem_append_left _ (List.mem_append_left _ hblock), hcontains⟩

theorem mappedUnspecified_mem_forms_iff (v4 : Ipv4Addr) :
    mappedUnspecified ∈ v4.forms ↔ v4 = .unspecified := by
  constructor
  · intro h
    simp only [Ipv4Addr.forms, List.mem_cons, List.not_mem_nil, or_false, mappedUnspecified, reduceCtorEq,
      false_or, IpAddr.v6.injEq] at h
    rcases h with h | h | h
    · rw [← v4.mapped.lowV4_of_segments v4 rfl rfl, ← h]
      decide
    · exact absurd (congrArg Ipv6Addr.s5 h) (by simp [Ipv4Addr.mapped, Ipv4Addr.compatible])
    · exact absurd (congrArg Ipv6Addr.s0 h) (by simp [Ipv4Addr.mapped, Ipv4Addr.nat64])
  · rintro rfl
    simp [Ipv4Addr.forms, mappedUnspecified]

/-- The filter meets its purpose on every address but `0.0.0.0`, and on every resolution but those whose only
forbidden candidates are `::ffff:0.0.0.0`. -/
theorem embedded_v4_refused_iff (host : String) (v4 : Ipv4Addr) (candidates : List SocketAddr) :
    (((classifyUnsafeV4 v4).isSome → ∀ ip ∈ v4.forms, ¬ (SsrfPolicy.default.classifyIp ip).isOk) ∧
      ((rejectIfAnyForbidden .default host candidates).isOk → ∀ addr ∈ candidates, ∀ refused : Ipv4Addr,
        (classifyUnsafeV4 refused).isSome → addr.ip ∉ refused.forms) ∧
      ∀ reordered : List SocketAddr, reordered.Perm candidates →
        (rejectIfAnyForbidden .default host reordered).isOk =
          (rejectIfAnyForbidden .default host candidates).isOk ∧
        ∀ e, rejectIfAnyForbidden .default host reordered = .error e →
        ∃ message, e = .schemaViolation message) ↔
    v4 ≠ .unspecified ∧
      (mappedUnspecified ∈ candidates.map SocketAddr.ip →
        ∃ addr ∈ candidates, Blocked addr.ip ∧ addr.ip ≠ mappedUnspecified) := by
  constructor
  · rintro ⟨hforms, hlist, -⟩
    constructor
    · rintro rfl
      apply hforms zero_forbidden mappedUnspecified ((mappedUnspecified_mem_forms_iff _).mpr rfl)
      rw [classifyIp_default_isOk_iff]
      exact fun h => h.2 rfl
    · intro hmem
      by_contra hnone
      push Not at hnone
      obtain ⟨addr, haddr, hip⟩ := List.mem_map.mp hmem
      have hok : (rejectIfAnyForbidden .default host candidates).isOk := by
        rw [rejectIfAnyForbidden_isOk_iff]
        intro other hother
        rw [classifyIp_default_isOk_iff]
        rintro ⟨hblocked, hne⟩
        exact hne (hnone other hother hblocked)
      apply hlist hok addr haddr .unspecified zero_forbidden
      rw [hip]
      exact (mappedUnspecified_mem_forms_iff _).mpr rfl
  · rintro ⟨hne, hother⟩
    refine ⟨?_, ?_, fun reordered h => ⟨rejectIfAnyForbidden_perm _ _ _ _ h,
      fun e he => rejectIfAnyForbidden_error _ _ _ e he⟩⟩
    · intro hrefused ip hip hok
      rw [classifyIp_default_isOk_iff] at hok
      apply hok
      refine ⟨blocked_of_form v4 ip hrefused hip, ?_⟩
      rintro rfl
      exact hne ((mappedUnspecified_mem_forms_iff v4).mp hip)
    · intro hok addr haddr refused hrefused hform
      rw [rejectIfAnyForbidden_isOk_iff] at hok
      have hblocked := blocked_of_form refused addr.ip hrefused hform
      by_cases hzero : addr.ip = mappedUnspecified
      · obtain ⟨bad, hbad, hbadBlocked, hbadNe⟩ := hother (List.mem_map.mpr ⟨addr, haddr, hzero⟩)
        exact (classifyIp_default_isOk_iff bad.ip).mp (hok bad hbad) ⟨hbadBlocked, hbadNe⟩
      · exact (classifyIp_default_isOk_iff addr.ip).mp (hok addr haddr) ⟨hblocked, hzero⟩

theorem mapped_unspecified_passes :
    (classifyUnsafeV4 .unspecified).isSome ∧
      (SsrfPolicy.default.classifyIp (.v6 Ipv4Addr.unspecified.mapped)).isOk ∧
      (rejectIfAnyForbidden .default "internal.example" [⟨.v6 Ipv4Addr.unspecified.mapped, 443⟩]).isOk := by
  refine ⟨by decide, by decide, ?_⟩
  rw [rejectIfAnyForbidden_isOk_iff]
  decide

end Acdp.SafeHttp
