import Acdp.Foundation.Decimal
import Acdp.Jcs.Number

namespace Acdp.Jcs

open Acdp.Foundation
open Acdp.Foundation.Binary64 (significand exponent ulp)

section Scale

theorem mulFives_some (p acc a : ℕ) (h : mulFives p acc = some a) : a = acc * 5 ^ p := by
  induction p generalizing acc with
  | zero =>
    cases h
    rw [pow_zero, mul_one]
  | succ p ih =>
    rw [mulFives] at h
    split at h
    · rw [ih _ h, pow_succ]
      ring
    · cases h

theorem mulFives_of_lt (p acc : ℕ) (h : acc * 5 ^ p < 2 ^ 128) : mulFives p acc = some (acc * 5 ^ p) := by
  induction p generalizing acc with
  | zero => rw [mulFives, pow_zero, mul_one]
  | succ p ih =>
    have hstep : acc * 5 * 5 ^ p = acc * 5 ^ (p + 1) := by
      rw [pow_succ]
      ring
    have hfits : acc * 5 < 2 ^ 128 := by
      refine lt_of_le_of_lt ?_ h
      rw [← hstep]
      exact Nat.le_mul_of_pos_right _ (by positivity)
    rw [mulFives, if_pos hfits, ih _ (by rw [hstep]; exact h), hstep]

theorem checkedScale_some (v p2 p5 a : ℕ) (h : checkedScale v p2 p5 = some a) : a = v * 2 ^ p2 * 5 ^ p5 := by
  rw [checkedScale] at h
  split at h
  · cases h
  · exact mulFives_some _ _ _ h

theorem checkedScale_of_lt (v p2 p5 : ℕ) (hv : 0 < v) (h : v * 2 ^ p2 * 5 ^ p5 < 2 ^ 128) :
    checkedScale v p2 p5 = some (v * 2 ^ p2 * 5 ^ p5) := by
  have hshift : v * 2 ^ p2 < 2 ^ 128 := lt_of_le_of_lt (Nat.le_mul_of_pos_right _ (by positivity)) h
  have hp2 : p2 < 128 := by
    refine (Nat.pow_lt_pow_iff_right (a := 2) (by decide)).mp (lt_of_le_of_lt ?_ hshift)
    exact Nat.le_mul_of_pos_left _ hv
  have hsize : v.size ≤ 128 - p2 := by
    rw [Nat.size_le]
    refine lt_of_mul_lt_mul_right ?_ (Nat.zero_le (2 ^ p2))
    rw [← pow_add, Nat.sub_add_cancel hp2.le]
    exact hshift
  rw [checkedScale, if_neg (by omega)]
  exact mulFives_of_lt _ _ h

end Scale

section Exact

theorem pow_max_toNat (a : ℚ) (ha : a ≠ 0) (z : ℤ) :
    a ^ (max z 0).toNat = a ^ (max (-z) 0).toNat * a ^ z := by
  rcases le_total 0 z with hz | hz
  · rw [max_eq_left hz, max_eq_right (by omega), Int.toNat_zero, pow_zero, one_mul, ← zpow_natCast,
      Int.toNat_of_nonneg hz]
  · rw [max_eq_right hz, max_eq_left (by omega), Int.toNat_zero, pow_zero, ← zpow_natCast,
      Int.toNat_of_nonneg (by omega), ← zpow_add₀ ha, neg_add_cancel, zpow_zero]

theorem scaled_eq_iff (m t : ℕ) (q e : ℤ) :
    m * 2 ^ (max (q + 1 - e) 0).toNat * 5 ^ (max (-e) 0).toNat =
        t * 2 ^ (max (-(q + 1 - e)) 0).toNat * 5 ^ (max e 0).toNat ↔
      (m : ℚ) * 2 ^ q = t * 10 ^ e / 2 := by
  have htwo := pow_max_toNat 2 (by norm_num) (q + 1 - e)
  have hfive := pow_max_toNat 5 (by norm_num) e
  have hB : (0 : ℚ) < 2 ^ (max (-(q + 1 - e)) 0).toNat := by positivity
  have hC : (0 : ℚ) < 5 ^ (max (-e) 0).toNat := by positivity
  have hten : (10 : ℚ) ^ e = 2 ^ e * 5 ^ e := by
    rw [← mul_zpow]
    norm_num
  have hexp : (2 : ℚ) ^ (q + 1 - e) * 2 ^ e = 2 ^ q * 2 := by
    rw [← zpow_add₀ (by norm_num), sub_add_cancel, zpow_add_one₀ (by norm_num)]
  have he : (2 : ℚ) ^ e ≠ 0 := zpow_ne_zero _ (by norm_num)
  rw [← Nat.cast_inj (R := ℚ)]
  push_cast
  rw [htwo, hfive, hten]
  generalize (2 : ℚ) ^ (max (-(q + 1 - e)) 0).toNat = B at hB
  generalize (5 : ℚ) ^ (max (-e) 0).toNat = C at hC
  constructor
  · intro h
    have hcancel : (m : ℚ) * 2 ^ (q + 1 - e) = t * 5 ^ e := by
      refine mul_right_cancel₀ (mul_pos hB hC).ne' ?_
      linear_combination h
    linear_combination (2 : ℚ) ^ e / 2 * hcancel - (m : ℚ) / 2 * hexp
  · intro h
    have hcancel : (m : ℚ) * 2 ^ (q + 1 - e) = t * 5 ^ e := by
      refine mul_right_cancel₀ he ?_
      linear_combination 2 * h + (m : ℚ) * hexp
    linear_combination B * C * hcancel

end Exact

theorem tie_bound (m t : ℕ) (q e : ℤ) (hm : m < 2 ^ 53) (hodd : t % 2 = 1) (ht : t < 2 ^ 58)
    (h : m * 2 ^ (max (q + 1 - e) 0).toNat * 5 ^ (max (-e) 0).toNat =
      t * 2 ^ (max (-(q + 1 - e)) 0).toNat * 5 ^ (max e 0).toNat) :
    t * 2 ^ (max (-(q + 1 - e)) 0).toNat * 5 ^ (max e 0).toNat < 2 ^ 128 := by
  generalize htwo : q + 1 - e = two at h ⊢
  rcases le_or_gt 0 e with he | he
  · rw [max_eq_right (show -e ≤ 0 by omega), Int.toNat_zero, pow_zero, mul_one] at h
    rw [← h]
    rcases le_or_gt two 0 with hle | hgt
    · rw [max_eq_right hle, Int.toNat_zero, pow_zero, mul_one]
      omega
    · -- an even number would be a product of odd ones
      exfalso
      obtain ⟨k, hk⟩ : ∃ k, two.toNat = k + 1 := ⟨two.toNat - 1, by omega⟩
      rw [max_eq_left hgt.le, hk, max_eq_right (show -two ≤ 0 by omega), Int.toNat_zero, pow_zero, mul_one,
        pow_succ] at h
      have hpow : 5 ^ (max e 0).toNat % 2 = 1 := by
        rw [Nat.pow_mod]
        norm_num
      have hright : (t * 5 ^ (max e 0).toNat) % 2 = 1 := by
        rw [Nat.mul_mod, hodd, hpow]
      have hleft : (m * (2 ^ k * 2)) % 2 = 0 := by
        rw [← mul_assoc]
        exact Nat.mul_mod_left _ _
      omega
  · rw [max_eq_right he.le, Int.toNat_zero, pow_zero, mul_one] at h ⊢
    rcases le_or_gt 0 two with hge | hlt
    · rw [max_eq_right (show -two ≤ 0 by omega), Int.toNat_zero, pow_zero, mul_one]
      omega
    · rw [max_eq_right hlt.le, Int.toNat_zero, pow_zero, mul_one] at h
      have hdvd : 5 ^ (max (-e) 0).toNat ∣ t * 2 ^ (max (-two) 0).toNat := by
        rw [← h]
        exact dvd_mul_left _ _
      have hcoprime : Nat.Coprime (5 ^ (max (-e) 0).toNat) (2 ^ (max (-two) 0).toNat) :=
        Nat.Coprime.pow _ _ (by decide)
      have hle : 5 ^ (max (-e) 0).toNat ≤ t := Nat.le_of_dvd (by omega) (hcoprime.dvd_of_dvd_mul_right hdvd)
      rw [← h]
      calc m * 5 ^ (max (-e) 0).toNat ≤ 2 ^ 53 * 2 ^ 58 := Nat.mul_le_mul hm.le (hle.trans ht.le)
        _ < 2 ^ 128 := by norm_num

section Bits

variable (abs : UInt64) (h : abs.toNat < 2 ^ 63)

theorem fraction_toNat : (abs &&& 0xfffffffffffff).toNat = Binary64.fraction abs.toNat := by
  rw [UInt64.toNat_and, Binary64.fraction]
  exact Nat.and_two_pow_sub_one_eq_mod abs.toNat 52

include h

theorem biasedExponent_toNat : (biasedExponent abs).toNat = Binary64.biased abs.toNat := by
  rw [biasedExponent, UInt64.toNat_and, UInt64.toNat_shiftRight, Binary64.biased]
  have hmask := Nat.and_two_pow_sub_one_eq_mod (abs.toNat >>> 52) 11
  have hshift : abs.toNat >>> 52 = abs.toNat / 2 ^ 52 := Nat.shiftRight_eq_div_pow _ _
  change (abs.toNat >>> 52) &&& (2 ^ 11 - 1) = _
  rw [hmask, hshift, Nat.mod_eq_of_lt]
  omega

theorem isExactDecimalMidpoint_iff (hpos : 0 < abs.toNat) (t : ℕ) (e : ℤ) (hodd : t % 2 = 1)
    (ht : t < 2 ^ 58) : isExactDecimalMidpoint abs t e = true ↔ Binary64.value abs.toNat =
      t * 10 ^ e / 2 := by
  have hsig := Binary64.significand_pos abs.toNat hpos
  have hform : (if (biasedExponent abs).toNat = 0 then ((abs &&& 0xfffffffffffff).toNat, (-1074 : ℤ))
      else ((abs &&& 0xfffffffffffff).toNat + 2 ^ 52, ((biasedExponent abs).toNat : ℤ) - 1075)) =
      (significand abs.toNat, exponent abs.toNat) := by
    rw [biasedExponent_toNat abs h, fraction_toNat, significand, exponent]
    split
    · rfl
    · rfl
  rw [Binary64.value, ulp, ← scaled_eq_iff, isExactDecimalMidpoint]
  dsimp only
  rw [hform]
  dsimp only
  rw [if_neg hsig.ne']
  constructor
  · intro htest
    split at htest
    · next a b ha hb =>
      rw [← checkedScale_some _ _ _ _ ha, ← checkedScale_some _ _ _ _ hb]
      exact eq_of_beq htest
    · cases htest
  · intro heq
    have hbound := tie_bound _ t _ e (Binary64.significand_lt abs.toNat) hodd ht heq
    rw [checkedScale_of_lt _ _ _ hsig (by rw [heq]; exact hbound),
      checkedScale_of_lt _ _ _ (by omega) hbound]
    exact beq_iff_eq.mpr heq

end Bits

end Acdp.Jcs
