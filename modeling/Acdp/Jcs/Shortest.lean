import Acdp.Jcs.Midpoint

namespace Acdp.Jcs

open Acdp.Foundation
open Acdp.Foundation.Binary64 (Reads significand exponent ulp lower upper)
open Acdp.Foundation.Decimal (digitCount)

/-- A decimal with the fewest digits among those read as the float, and the closest to it among those. -/
structure Shortest (bits s : ℕ) (e : ℤ) : Prop where
  pos : 0 < s
  reads : Reads bits (Decimal.value s e)
  fewest : ∀ s' e', 0 < s' → Reads bits (Decimal.value s' e') → digitCount s ≤ digitCount s'
  closest : ∀ s' e', 0 < s' → digitCount s' = digitCount s → Reads bits (Decimal.value s' e') →
    |Decimal.value s e - Binary64.value bits| ≤ |Decimal.value s' e' - Binary64.value bits|

/-- `2^(-24)`, where the only shortest decimal lies above the float at the distance of one below its
interval. -/
def doubleRounded : ℕ := 0x3E70000000000000

section Shortest

variable {bits s : ℕ} {e : ℤ} (h : Shortest bits s e)

include h

theorem Shortest.not_trailing : s % 10 ≠ 0 := by
  intro hzero
  obtain ⟨s', rfl⟩ : ∃ s', s = s' * 10 := ⟨s / 10, by omega⟩
  have hpos : 0 < s' := by
    have := h.pos
    omega
  have hreads := h.reads
  rw [Decimal.value_mul_ten] at hreads
  exact absurd (Decimal.digitCount_mul_ten s' hpos) (not_lt.mpr (h.fewest s' (e + 1) hpos hreads))

theorem Shortest.digitCount_le (hbits : 0 < bits) : digitCount s ≤ 17 := by
  obtain ⟨s', e', hpos, hcount, hreads⟩ := Decimal.exists_reads_of_seventeen bits hbits
  exact (h.fewest s' e' hpos hreads).trans hcount

theorem Shortest.lt_pow (hbits : 0 < bits) : s < 10 ^ 17 :=
  (Decimal.digitCount_le_iff s 17 (by decide)).mp (h.digitCount_le hbits)

theorem Shortest.closest_le (s' : ℕ) (e' : ℤ) (hpos : 0 < s') (hcount : digitCount s' ≤ digitCount s)
    (hreads : Reads bits (Decimal.value s' e')) :
    |Decimal.value s e - Binary64.value bits| ≤ |Decimal.value s' e' - Binary64.value bits| :=
  h.closest s' e' hpos (le_antisymm hcount (h.fewest s' e' hpos hreads)) hreads

theorem Shortest.of_same (s' : ℕ) (e' : ℤ) (hpos : 0 < s') (hcount : digitCount s' ≤ digitCount s)
    (hreads : Reads bits (Decimal.value s' e'))
    (hdist : |Decimal.value s' e' - Binary64.value bits| = |Decimal.value s e - Binary64.value bits|) :
    Shortest bits s' e' := by
  have hsame : digitCount s' = digitCount s := le_antisymm hcount (h.fewest s' e' hpos hreads)
  refine ⟨hpos, hreads, ?_, ?_⟩
  · rw [hsame]
    exact h.fewest
  · rw [hsame, hdist]
    exact h.closest

end Shortest

theorem reads_upper {bits : ℕ} {x : ℚ} (h : Reads bits x) : x ≤ Binary64.value bits + ulp bits / 2 := by
  rw [← Binary64.upper_eq]
  exact h.2.elim le_of_lt (fun h => h.1.le)

theorem reads_lower {bits : ℕ} (hbits : 0 < bits) {x : ℚ} (h : Reads bits x) :
    Binary64.value bits - ulp (bits - 1) / 2 ≤ x := by
  rw [← Binary64.lower_eq bits hbits]
  exact h.1.elim le_of_lt (fun h => h.1.le)

theorem ulp_pred_le (bits : ℕ) (hbits : 0 < bits) : ulp (bits - 1) ≤ ulp bits := by
  rcases Binary64.ulp_pred bits hbits with hsame | ⟨-, -, hhalf⟩
  · exact hsame.le
  · rw [hhalf]
    exact half_le_self (Binary64.ulp_pos bits).le

theorem reads_between {bits : ℕ} {x y z : ℚ} (hx : Reads bits x) (hy : Reads bits y) (hxz : x < z)
    (hzy : z < y) : Reads bits z :=
  ⟨.inl (hx.1.elim (fun h => h.trans hxz) (fun h => h.1.trans_lt hxz)),
    .inl (hy.2.elim (fun h => hzy.trans h) (fun h => hzy.trans_eq h.1))⟩

theorem value_succ_digit (s : ℕ) (e : ℤ) : Decimal.value (s + 1) e = Decimal.value s e + 10 ^ e := by
  rw [Decimal.value, Decimal.value]
  push_cast
  ring

theorem closer_of_between {x y z v : ℚ} (hxz : x < z) (hzy : z < y) (hmid : x + y = 2 * v) :
    |z - v| < |x - v| := by
  rw [abs_of_neg (show x - v < 0 by linarith), abs_lt]
  constructor
  · linarith
  · linarith

section Tie

variable {bits s : ℕ} {e : ℤ} (hbits : 0 < bits)

include hbits

theorem not_tie_at_nine (htie : Binary64.value bits = 19 * 10 ^ e / 2) : ¬ Reads bits
    (Decimal.value 9 e) := by
  intro hreads
  have hunit : (0 : ℚ) < 10 ^ e := zpow_pos (by norm_num) _
  have hlow := reads_lower hbits hreads
  have hpred := ulp_pred_le bits hbits
  have hspacing : (10 : ℚ) ^ e ≤ ulp bits := by
    rw [Decimal.value, htie] at hlow
    push_cast at hlow
    linarith
  have hsmall : (significand bits : ℚ) ≤ 19 / 2 := by
    refine le_of_mul_le_mul_right ?_ (Binary64.ulp_pos bits)
    calc (significand bits : ℚ) * ulp bits = Binary64.value bits := rfl
      _ = 19 / 2 * 10 ^ e := by rw [htie]; ring
      _ ≤ 19 / 2 * ulp bits := mul_le_mul_of_nonneg_left hspacing (by norm_num)
  have hsig : significand bits < 10 := by
    have : (significand bits : ℚ) < 10 := by linarith
    exact_mod_cast this
  have hsub : exponent bits = -1074 := by
    rw [significand] at hsig
    rw [exponent]
    split at hsig
    · next hzero => rw [if_pos hzero]
    · omega
  have he : e < 0 := by
    by_contra hge
    have hone : (1 : ℚ) ≤ 10 ^ e := one_le_zpow₀ (by norm_num) (not_lt.mp hge)
    have htiny : ulp bits < 1 := by
      rw [ulp, hsub]
      exact zpow_lt_one_of_neg₀ (by norm_num) (by norm_num)
    linarith
  have heq := (scaled_eq_iff (significand bits) 19 (exponent bits) e).mpr (by
    rw [show ((19 : ℕ) : ℚ) = 19 by norm_num, ← htie]
    rfl)
  rw [max_eq_right he.le, Int.toNat_zero, pow_zero, mul_one] at heq
  obtain ⟨n, hn⟩ : ∃ n, (max (-e) 0).toNat = n + 1 := ⟨(max (-e) 0).toNat - 1, by omega⟩
  rw [hn, pow_succ] at heq
  have hdvd : 5 ∣ 19 * 2 ^ (max (-(exponent bits + 1 - e)) 0).toNat := by
    rw [← heq]
    exact ⟨significand bits * 2 ^ (max (exponent bits + 1 - e) 0).toNat * 5 ^ n, by ring⟩
  have hcoprime : Nat.Coprime 5 (2 ^ (max (-(exponent bits + 1 - e)) 0).toNat) :=
    Nat.Coprime.pow_right _ (by decide)
  exact absurd (hcoprime.dvd_of_dvd_mul_right hdvd) (by decide)

theorem one_lt_of_tie_below (h : Shortest bits s e)
    (htie : Binary64.value bits = (2 * s - 1 : ℕ) * 10 ^ e / 2) : 1 < s := by
  have hpos := h.pos
  by_contra hle
  have hone : s = 1 := by omega
  subst hone
  have hhigh := reads_upper h.reads
  have hulp := Binary64.ulp_pos bits
  have hsig : (1 : ℚ) ≤ significand bits := by exact_mod_cast Binary64.significand_pos bits hbits
  have hvalue : ulp bits ≤ Binary64.value bits := le_mul_of_one_le_left hulp.le hsig
  rw [Decimal.value] at hhigh
  push_cast at htie hhigh
  linarith

omit hbits in
theorem power_of_five_of_tie (hsig : significand bits = 2 ^ 52) (t : ℕ) (hodd : t % 2 = 1)
    (htie : Binary64.value bits = t * 10 ^ e / 2) :
    ∃ n : ℕ, e = -n ∧ t = 5 ^ n ∧ exponent bits = -n - 53 := by
  have htwo : Nat.Coprime 2 t := by
    rw [Nat.Coprime, Nat.gcd_rec, hodd]
    rfl
  have heq := (scaled_eq_iff (significand bits) t (exponent bits) e).mpr (by rw [← htie]; rfl)
  rw [hsig] at heq
  have he : e ≤ 0 := by
    by_contra hgt
    rw [not_le] at hgt
    rw [max_eq_right (show -e ≤ 0 by omega), Int.toNat_zero, pow_zero, mul_one, ← pow_add] at heq
    obtain ⟨n, hn⟩ : ∃ n, (max e 0).toNat = n + 1 := ⟨(max e 0).toNat - 1, by omega⟩
    have hdvd : 5 ∣ 2 ^ (52 + (max (exponent bits + 1 - e) 0).toNat) := by
      rw [heq, hn, pow_succ]
      exact ⟨t * 2 ^ (max (-(exponent bits + 1 - e)) 0).toNat * 5 ^ n, by ring⟩
    have hcoprime : Nat.Coprime 5 (2 ^ (52 + (max (exponent bits + 1 - e) 0).toNat)) :=
      Nat.Coprime.pow_right _ (by decide)
    have hself := hcoprime.eq_one_of_dvd hdvd
    omega
  obtain ⟨n, hn⟩ : ∃ n : ℕ, e = -n := ⟨(-e).toNat, by omega⟩
  subst hn
  rw [max_eq_right he, Int.toNat_zero, pow_zero, mul_one, neg_neg,
    max_eq_left (Int.natCast_nonneg n), Int.toNat_natCast, ← pow_add] at heq
  have hfive : t = 5 ^ n := by
    refine Nat.dvd_antisymm ?_ ?_
    · have hdvd : t ∣ 2 ^ (52 + (max (exponent bits + 1 - -↑n) 0).toNat) * 5 ^ n := by
        rw [heq]
        exact dvd_mul_right _ _
      exact (Nat.Coprime.pow_right _ htwo.symm).dvd_of_dvd_mul_left hdvd
    · have hdvd : 5 ^ n ∣ t * 2 ^ (max (-(exponent bits + 1 - -↑n)) 0).toNat := by
        rw [← heq]
        exact dvd_mul_left _ _
      exact (Nat.Coprime.pow _ _ (by decide)).dvd_of_dvd_mul_right hdvd
  refine ⟨n, rfl, hfive, ?_⟩
  have hpower : (2 : ℚ) ^ (52 + exponent bits) = 2 ^ (-(n : ℤ) - 1) := by
    calc (2 : ℚ) ^ (52 + exponent bits) = significand bits * ulp bits := by
          rw [hsig, ulp, zpow_add₀ (by norm_num)]
          norm_num
      _ = t * 10 ^ (-(n : ℤ)) / 2 := htie
      _ = 2 ^ (-(n : ℤ) - 1) := by
          rw [hfive, zpow_sub₀ (by norm_num), zpow_neg, zpow_neg, zpow_natCast, zpow_natCast,
            show (10 : ℚ) = 5 * 2 by norm_num, mul_pow]
          push_cast
          field_simp
  have hexp := zpow_right_injective₀ (by norm_num : (0 : ℚ) < 2) (by norm_num) hpower
  omega

theorem reads_below_of_tie (h : Shortest bits s e) (hne : bits ≠ doubleRounded)
    (htie : Binary64.value bits = (2 * s - 1 : ℕ) * 10 ^ e / 2) : Reads bits (Decimal.value (s - 1) e) := by
  have hone := one_lt_of_tie_below hbits h htie
  have hunit : (0 : ℚ) < 10 ^ e := zpow_pos (by norm_num) _
  have hcast : (((2 * s - 1 : ℕ) : ℚ)) = 2 * s - 1 := by
    push_cast [Nat.cast_sub (show 1 ≤ 2 * s by omega)]
    ring
  have hcast' : (((s - 1 : ℕ) : ℚ)) = s - 1 := by
    rw [Nat.cast_sub hone.le, Nat.cast_one]
  have habove : Decimal.value s e = Binary64.value bits + 10 ^ e / 2 := by
    rw [htie, hcast, Decimal.value]
    ring
  have hbelow : Decimal.value (s - 1) e = Binary64.value bits - 10 ^ e / 2 := by
    rw [htie, hcast, Decimal.value, hcast']
    ring
  have hreads := h.reads
  have hhigh := reads_upper hreads
  rw [habove] at hreads hhigh
  rw [hbelow]
  refine Binary64.reads_mirror_below bits hbits _ (by linarith) hreads ?_
  rcases Binary64.ulp_pred bits hbits with hsame | ⟨hsig, heven, hhalf⟩
  · exact .inl hsame
  · refine .inr ⟨heven, ?_⟩
    obtain ⟨n, rfl, hfive, hexp⟩ := power_of_five_of_tie hsig (2 * s - 1) (by omega) htie
    have hs := h.lt_pow hbits
    have hn : n < 25 := by
      by_contra hge
      have hpow : 5 ^ 25 ≤ 5 ^ n := Nat.pow_le_pow_right (by decide) (not_lt.mp hge)
      omega
    have hn' : 23 ≤ n := by
      by_contra hlt
      have hspacing : (10 : ℚ) ^ (-(n : ℤ)) ≤ 2 ^ (-(n : ℤ) - 53) := by
        rw [← hexp]
        change _ ≤ ulp bits
        linarith
      rw [zpow_sub₀ (by norm_num), zpow_neg, zpow_neg, zpow_natCast, zpow_natCast,
        show (10 : ℚ) = 5 * 2 by norm_num, mul_pow, mul_inv, div_eq_mul_inv, mul_comm] at hspacing
      have hinv : ((5 : ℚ) ^ n)⁻¹ ≤ (2 ^ (53 : ℤ))⁻¹ := le_of_mul_le_mul_left hspacing (by positivity)
      rw [inv_le_inv₀ (by positivity) (by positivity)] at hinv
      have hpow : (5 : ℚ) ^ n ≤ 5 ^ 22 := pow_le_pow_right₀ (by norm_num) (by omega)
      norm_num at hinv hpow
      linarith
    have hcases : n = 23 ∨ n = 24 := by omega
    rcases hcases with rfl | rfl
    · exfalso
      refine hne ?_
      rw [exponent] at hexp
      rw [significand] at hsig
      split at hexp
      · omega
      · next hbiased =>
        rw [if_neg hbiased] at hsig
        rw [Binary64.fraction] at hsig
        rw [Binary64.biased] at hexp hbiased
        rw [doubleRounded]
        omega
    · rw [hhalf, ulp, hexp]
      norm_num

theorem reads_above_of_tie (h : Shortest bits s e)
    (htie : Binary64.value bits = (2 * s + 1 : ℕ) * 10 ^ e / 2) : Reads bits (Decimal.value (s + 1) e) := by
  have hunit : (0 : ℚ) < 10 ^ e := zpow_pos (by norm_num) _
  have hbelow : Decimal.value s e = Binary64.value bits - 10 ^ e / 2 := by
    rw [htie, Decimal.value]
    push_cast
    ring
  have habove : Decimal.value (s + 1) e = Binary64.value bits + 10 ^ e / 2 := by
    rw [value_succ_digit, hbelow]
    ring
  have hreads := h.reads
  rw [hbelow] at hreads
  rw [habove]
  exact Binary64.reads_mirror_above bits hbits _ (by linarith) hreads

theorem digitCount_succ_le_of_tie (h : Shortest bits s e)
    (htie : Binary64.value bits = (2 * s + 1 : ℕ) * 10 ^ e / 2) : digitCount (s + 1) ≤ digitCount s := by
  rw [Decimal.digitCount_le_iff _ _ (Decimal.digitCount_pos s)]
  have hlt := Decimal.lt_pow_digitCount s
  by_contra hge
  have hpow : s + 1 = 10 ^ digitCount s := by omega
  have hreads := reads_above_of_tie hbits h htie
  have hten : Decimal.value (s + 1) e = Decimal.value 1 (e + digitCount s) := by
    rw [hpow, Decimal.value, Decimal.value, zpow_add₀ (by norm_num), zpow_natCast]
    push_cast
    ring
  rw [hten] at hreads
  have hcount := h.fewest 1 _ (by decide) hreads
  have hsingle : digitCount s = 1 := le_antisymm hcount (Decimal.digitCount_pos s)
  rw [hsingle] at hpow
  have hnine : s = 9 := by omega
  subst hnine
  exact not_tie_at_nine hbits (by rw [htie]; norm_num) h.reads

theorem shortest_below_of_tie (h : Shortest bits s e) (hne : bits ≠ doubleRounded)
    (htie : Binary64.value bits = (2 * s - 1 : ℕ) * 10 ^ e / 2) : Shortest bits (s - 1) e := by
  have hone := one_lt_of_tie_below hbits h htie
  refine h.of_same (s - 1) e (by omega) ?_ (reads_below_of_tie hbits h hne htie) ?_
  · rw [Decimal.digitCount_le_iff _ _ (Decimal.digitCount_pos s)]
    exact lt_of_le_of_lt (Nat.sub_le s 1) (Decimal.lt_pow_digitCount s)
  · have hcast : (((2 * s - 1 : ℕ) : ℚ)) = 2 * s - 1 := by
      push_cast [Nat.cast_sub (show 1 ≤ 2 * s by omega)]
      ring
    rw [htie, hcast, Decimal.value, Decimal.value, Nat.cast_sub hone.le, Nat.cast_one,
      show ((s : ℚ) - 1) * 10 ^ e - (2 * s - 1) * 10 ^ e / 2 = -(10 ^ e / 2) by ring,
      show (s : ℚ) * 10 ^ e - (2 * s - 1) * 10 ^ e / 2 = 10 ^ e / 2 by ring, abs_neg]

theorem shortest_above_of_tie (h : Shortest bits s e)
    (htie : Binary64.value bits = (2 * s + 1 : ℕ) * 10 ^ e / 2) : Shortest bits (s + 1) e := by
  refine h.of_same (s + 1) e (Nat.succ_pos s) (digitCount_succ_le_of_tie hbits h htie)
    (reads_above_of_tie hbits h htie) ?_
  rw [htie, Decimal.value, Decimal.value]
  push_cast
  rw [show ((s : ℚ) + 1) * 10 ^ e - (2 * s + 1) * 10 ^ e / 2 = 10 ^ e / 2 by ring,
    show (s : ℚ) * 10 ^ e - (2 * s + 1) * 10 ^ e / 2 = -(10 ^ e / 2) by ring, abs_neg]

omit hbits in
theorem tie_above (h : Shortest bits s e) {s' : ℕ} {e' : ℤ} (h' : Shortest bits s' e')
    (hlt : Decimal.value s e < Decimal.value s' e')
    (hmid : Decimal.value s e + Decimal.value s' e' = 2 * Binary64.value bits) :
    Binary64.value bits = (2 * s + 1 : ℕ) * 10 ^ e / 2 := by
  have hcount : digitCount s' = digitCount s :=
    le_antisymm (h'.fewest s e h.pos h.reads) (h.fewest s' e' h'.pos h'.reads)
  have hunit : (0 : ℚ) < 10 ^ e := zpow_pos (by norm_num) _
  obtain ⟨k, hk⟩ : ∃ k, digitCount s = k + 1 := ⟨digitCount s - 1, by have := Decimal.digitCount_pos s; omega⟩
  have hfloor : (10 : ℚ) ^ (k + e) ≤ Decimal.value s e := by
    rw [Decimal.value, zpow_add₀ (by norm_num), zpow_natCast]
    have hcast : (10 : ℚ) ^ k ≤ s := by exact_mod_cast Decimal.pow_le_of_digitCount s k h.pos hk
    exact mul_le_mul_of_nonneg_right hcast hunit.le
  have hfew : s' < 10 ^ (k + 1) := by
    rw [← hk, ← hcount]
    exact Decimal.lt_pow_digitCount s'
  obtain ⟨n, hn⟩ := Decimal.multiple_of_few_digits s' e' (k + e) (k + 1) hfew (hfloor.trans hlt.le)
  rw [show (k : ℤ) + e - ((k + 1 : ℕ) : ℤ) + 1 = e by push_cast; ring] at hn
  have hnext : s + 1 ≤ n := by
    rw [hn, Decimal.value, Decimal.value] at hlt
    have hcast : (s : ℚ) < n := lt_of_mul_lt_mul_right hlt hunit.le
    have : s < n := by exact_mod_cast hcast
    omega
  have hle : Decimal.value s' e' ≤ Decimal.value (s + 1) e := by
    by_contra hgt
    rw [not_le] at hgt
    have hmore : Decimal.value s e < Decimal.value (s + 1) e := by
      rw [value_succ_digit]
      linarith
    have hreads := reads_between h.reads h'.reads hmore hgt
    have hdist : |Decimal.value s e - Binary64.value bits| ≤ |Decimal.value (s + 1) e -
        Binary64.value bits| := by
      rcases lt_or_eq_of_le (Nat.succ_le_of_lt (Decimal.lt_pow_digitCount s)) with hsucc | hpow
      · exact h.closest_le (s + 1) e (Nat.succ_pos s)
          ((Decimal.digitCount_le_iff _ _ (Decimal.digitCount_pos s)).mpr hsucc) hreads
      · have hten : Decimal.value (s + 1) e = Decimal.value 1 (e + digitCount s) := by
          rw [show s + 1 = 10 ^ digitCount s from hpow, Decimal.value, Decimal.value, zpow_add₀ (by norm_num),
            zpow_natCast]
          push_cast
          ring
        rw [hten] at hreads ⊢
        exact h.closest_le 1 _ (by decide) (Decimal.digitCount_pos s) hreads
    exact absurd hdist (not_le.mpr (closer_of_between hmore hgt hmid))
  have heq : Decimal.value s' e' = Decimal.value (s + 1) e := by
    refine le_antisymm hle ?_
    rw [hn, Decimal.value, Decimal.value]
    have hcast : ((s + 1 : ℕ) : ℚ) ≤ n := by exact_mod_cast hnext
    exact mul_le_mul_of_nonneg_right hcast hunit.le
  rw [heq, value_succ_digit, Decimal.value] at hmid
  push_cast
  linarith

theorem tie_below (h : Shortest bits s e) {s' : ℕ} {e' : ℤ} (h' : Shortest bits s' e')
    (hlt : Decimal.value s' e' < Decimal.value s e)
    (hmid : Decimal.value s' e' + Decimal.value s e = 2 * Binary64.value bits) :
    Binary64.value bits = (2 * s - 1 : ℕ) * 10 ^ e / 2 := by
  have htie := tie_above h' h hlt hmid
  have hsucc := shortest_above_of_tie hbits h' htie
  have hvalue : Decimal.value s e = Decimal.value (s' + 1) e' := by
    rw [htie] at hmid
    rw [value_succ_digit]
    simp only [Decimal.value] at hmid ⊢
    push_cast at hmid
    linarith
  obtain ⟨rfl, rfl⟩ := Decimal.value_injective h.not_trailing hsucc.not_trailing hvalue
  rw [htie, show 2 * (s' + 1) - 1 = 2 * s' + 1 by omega]

end Tie

section Correction

variable (abs : UInt64) (hpos : 0 < abs.toNat) (hlt : abs.toNat < 2 ^ 63) {s : ℕ} {e : ℤ}

include hpos hlt

theorem correction_eq (h : Shortest abs.toNat s e) :
    roundHalfEvenCorrection abs (Nat.toDigits 10 s) (e + (digitCount s - 1)) =
      if s % 2 = 0 then none
      else if Binary64.value abs.toNat = (2 * s - 1 : ℕ) * 10 ^ e / 2 then some (Nat.toDigits 10 (s - 1))
      else if Binary64.value abs.toNat = (2 * s + 1 : ℕ) * 10 ^ e / 2 then some (Nat.toDigits 10 (s + 1))
      else none := by
  have hcount : (Nat.toDigits 10 s).length ≤ 17 := h.digitCount_le hpos
  have hs := h.lt_pow hpos
  have hs' := h.pos
  have hparse : (Types.Text.parseDigits (Nat.toDigits 10 s)).filter (fun s => decide (s < 2 ^ 128)) =
      some s := by
    have hdigits : (Nat.toDigits 10 s).all Char.isDigit = true := List.all_eq_true.mpr (toDigits_isDigit s)
    have hfits : decide (s < 2 ^ 128) = true := decide_eq_true (lt_trans hs (by norm_num))
    rw [Types.Text.parseDigits, if_pos ⟨Nat.toDigits_ne_nil, hdigits⟩, Nat.ofDigitChars_ten_toDigits,
      Option.filter_some, if_pos hfits]
  have hlast : e + ((digitCount s : ℤ) - 1) - (((Nat.toDigits 10 s).length : ℤ) - 1) = e := by
    rw [digitCount]
    ring
  rw [roundHalfEvenCorrection, if_neg (by omega), hparse]
  dsimp only
  rw [hlast]
  simp only [isExactDecimalMidpoint_iff abs hlt hpos (2 * s - 1) e (by omega) (by omega),
    isExactDecimalMidpoint_iff abs hlt hpos (2 * s + 1) e (by omega) (by omega)]

theorem correction_shortest (h : Shortest abs.toNat s e) (hne : abs.toNat ≠ doubleRounded) :
    ∃ s', (roundHalfEvenCorrection abs (Nat.toDigits 10 s) (e + (digitCount s - 1))).getD
      (Nat.toDigits 10 s) = Nat.toDigits 10 s' ∧ Shortest abs.toNat s' e ∧
      ∀ s₁ e₁ s₂ e₂, Shortest abs.toNat s₁ e₁ → Shortest abs.toNat s₂ e₂ →
        Decimal.value s₁ e₁ ≠ Decimal.value s₂ e₂ → s' % 2 = 0 := by
  rw [correction_eq abs hpos hlt h]
  have hs := h.pos
  split
  · next heven => exact ⟨s, rfl, h, fun _ _ _ _ _ _ _ => heven⟩
  · next hodd =>
    split
    · next htie => exact ⟨s - 1, rfl, shortest_below_of_tie hpos h hne htie, fun _ _ _ _ _ _ _ => by omega⟩
    · next hbelow =>
      split
      · next htie => exact ⟨s + 1, rfl, shortest_above_of_tie hpos h htie, fun _ _ _ _ _ _ _ => by omega⟩
      · next habove =>
        refine ⟨s, rfl, h, ?_⟩
        intro s₁ e₁ s₂ e₂ h₁ h₂ hne'
        exfalso
        -- one of the two is not the formatter's, and lies across the float from it
        obtain ⟨s', e', h', hother⟩ : ∃ s' e', Shortest abs.toNat s' e' ∧
            Decimal.value s' e' ≠ Decimal.value s e := by
          by_cases hsame : Decimal.value s₁ e₁ = Decimal.value s e
          · exact ⟨s₂, e₂, h₂, fun hsame' => hne' (hsame.trans hsame'.symm)⟩
          · exact ⟨s₁, e₁, h₁, hsame⟩
        have hcount : digitCount s' = digitCount s :=
          le_antisymm (h'.fewest s e h.pos h.reads) (h.fewest s' e' h'.pos h'.reads)
        have hdist : |Decimal.value s' e' - Binary64.value abs.toNat| =
            |Decimal.value s e - Binary64.value abs.toNat| :=
          le_antisymm (h'.closest s e h.pos hcount.symm h.reads) (h.closest s' e' h'.pos hcount h'.reads)
        have hmid : Decimal.value s' e' + Decimal.value s e = 2 * Binary64.value abs.toNat := by
          rcases abs_eq_abs.mp hdist with heq | heq
          · exact absurd (by linarith) hother
          · linarith
        rcases lt_or_gt_of_ne hother with hlt' | hgt'
        · exact hbelow (tie_below hpos h h' hlt' hmid)
        · exact habove (tie_above h h' hgt' (by linarith))

end Correction

end Acdp.Jcs
