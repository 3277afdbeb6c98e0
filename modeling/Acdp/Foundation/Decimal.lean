import Acdp.Foundation.Binary64

namespace Acdp.Foundation.Decimal

open Binary64

def digitCount (s : ℕ) : ℕ := (Nat.toDigits 10 s).length

def value (s : ℕ) (e : ℤ) : ℚ := s * 10 ^ e

theorem digitCount_pos (s : ℕ) : 0 < digitCount s := Nat.length_toDigits_pos

theorem digitCount_le_iff (s k : ℕ) (hk : 0 < k) : digitCount s ≤ k ↔ s < 10 ^ k :=
  Nat.length_toDigits_le_iff (by decide) hk

theorem lt_pow_digitCount (s : ℕ) : s < 10 ^ digitCount s :=
  (digitCount_le_iff s _ (digitCount_pos s)).mp le_rfl

theorem pow_le_of_digitCount (s k : ℕ) (hs : 0 < s) (hk : digitCount s = k + 1) : 10 ^ k ≤ s := by
  by_contra hlt
  rw [not_le] at hlt
  cases k with
  | zero =>
    rw [pow_zero] at hlt
    omega
  | succ k =>
    have hle := (digitCount_le_iff s (k + 1) (Nat.succ_pos k)).mpr hlt
    omega

theorem digitCount_mul_ten (s : ℕ) (hs : 0 < s) : digitCount s < digitCount (s * 10) := by
  by_contra hle
  rw [not_lt, digitCount_le_iff _ _ (digitCount_pos s)] at hle
  obtain ⟨k, hk⟩ := Nat.exists_eq_succ_of_ne_zero (digitCount_pos s).ne'
  have hlow := pow_le_of_digitCount s k hs hk
  rw [hk, pow_succ] at hle
  omega

theorem value_mul_ten (s : ℕ) (e : ℤ) : value (s * 10) e = value s (e + 1) := by
  rw [value, value, zpow_add_one₀ (by norm_num)]
  push_cast
  ring

theorem value_pos (s : ℕ) (e : ℤ) (hs : 0 < s) : 0 < value s e :=
  mul_pos (Nat.cast_pos.mpr hs) (zpow_pos (by norm_num) _)

theorem multiple_of_few_digits (s : ℕ) (e p : ℤ) (k : ℕ) (hs : s < 10 ^ k) (hp : (10 : ℚ) ^ p ≤ value s e) :
    ∃ n : ℕ, value s e = value n (p - k + 1) := by
  have hlt : value s e < 10 ^ (e + k) := by
    rw [value, zpow_add₀ (by norm_num), mul_comm, zpow_natCast]
    have hcast : (s : ℚ) < 10 ^ k := by exact_mod_cast hs
    exact mul_lt_mul_of_pos_left hcast (zpow_pos (by norm_num) _)
  have hexp : p < e + k := (zpow_lt_zpow_iff_right₀ (by norm_num)).mp (lt_of_le_of_lt hp hlt)
  refine ⟨s * 10 ^ (e - (p - k + 1)).toNat, ?_⟩
  have hsplit : (10 : ℚ) ^ e = 10 ^ (e - (p - k + 1)).toNat * 10 ^ (p - k + 1) := by
    rw [← zpow_natCast, ← zpow_add₀ (by norm_num), Int.toNat_of_nonneg (by omega)]
    congr 1
    omega
  rw [value, value, hsplit]
  push_cast
  ring

theorem value_injective {s s' : ℕ} {e e' : ℤ} (hs : s % 10 ≠ 0) (hs' : s' % 10 ≠ 0)
    (h : value s e = value s' e') : s = s' ∧ e = e' := by
  wlog hle : e ≤ e' generalizing s s' e e'
  · obtain ⟨rfl, rfl⟩ := this hs' hs h.symm (not_le.mp hle).le
    exact ⟨rfl, rfl⟩
  have hscale : s = s' * 10 ^ (e' - e).toNat := by
    have hsplit : (10 : ℚ) ^ e' = 10 ^ (e' - e).toNat * 10 ^ e := by
      rw [← zpow_natCast, ← zpow_add₀ (by norm_num), Int.toNat_of_nonneg (by omega), sub_add_cancel]
    rw [value, value, hsplit, ← mul_assoc] at h
    have hcast := mul_right_cancel₀ (zpow_ne_zero e (by norm_num : (10 : ℚ) ≠ 0)) h
    exact_mod_cast hcast
  obtain hzero | ⟨k, hk⟩ : (e' - e).toNat = 0 ∨ ∃ k, (e' - e).toNat = k + 1 := by
    cases (e' - e).toNat with
    | zero => exact .inl rfl
    | succ k => exact .inr ⟨k, rfl⟩
  · rw [hzero, pow_zero, mul_one] at hscale
    exact ⟨hscale, by omega⟩
  · rw [hk, pow_succ, ← mul_assoc] at hscale
    exact absurd (by rw [hscale]; exact Nat.mul_mod_left _ _) hs

theorem eq_of_close (n n' : ℕ) (e : ℤ) (h : |value n e - value n' e| < 10 ^ e) : n = n' := by
  have hpos : (0 : ℚ) < 10 ^ e := zpow_pos (by norm_num) _
  rw [value, value, ← sub_mul, abs_mul, abs_of_pos hpos] at h
  have hone : |(n : ℚ) - n'| < 1 := by
    by_contra hge
    rw [not_lt] at hge
    exact absurd h (not_lt.mpr (le_mul_of_one_le_left hpos.le hge))
  have hint : |(n : ℤ) - n'| < 1 := by exact_mod_cast hone
  rw [Int.abs_lt_one_iff] at hint
  omega

theorem spacing_bound (bits : ℕ) (h : 0 < bits) : Binary64.value bits < 10 ^ 16 * ulp (bits - 1) := by
  have hpos := ulp_pos bits
  rcases ulp_pred bits h with hsame | ⟨hsig, -, hhalf⟩
  · have hsig : (significand bits : ℚ) < 2 ^ 53 := by exact_mod_cast significand_lt bits
    calc Binary64.value bits = significand bits * ulp bits := rfl
      _ < 2 ^ 53 * ulp bits := mul_lt_mul_of_pos_right hsig hpos
      _ ≤ 10 ^ 16 * ulp (bits - 1) := by
        rw [hsame]
        exact mul_le_mul_of_nonneg_right (by norm_num) hpos.le
  · have hcast : (significand bits : ℚ) = 2 ^ 52 := by exact_mod_cast hsig
    rw [Binary64.value, hcast, hhalf]
    linarith

theorem exists_reads_of_seventeen (bits : ℕ) (h : 0 < bits) :
    ∃ s e, 0 < s ∧ digitCount s ≤ 17 ∧ Reads bits (value s e) := by
  have hpos := Binary64.value_pos bits h
  have hlow := Int.zpow_log_le_self (b := 10) (by norm_num) hpos
  have hhigh := Int.lt_zpow_succ_log_self (b := 10) (by norm_num) (Binary64.value bits)
  push_cast at hlow hhigh
  generalize Int.log 10 (Binary64.value bits) = p at hlow hhigh
  have hunit : (0 : ℚ) < 10 ^ (p - 16) := zpow_pos (by norm_num) _
  have hshift : ∀ k : ℕ, (10 : ℚ) ^ (p - 16 + k) = 10 ^ k * 10 ^ (p - 16) := by
    intro k
    rw [zpow_add₀ (by norm_num), zpow_natCast, mul_comm]
  have h16 := hshift 16
  have h17 := hshift 17
  rw [show p - 16 + ((16 : ℕ) : ℤ) = p by push_cast; ring] at h16
  rw [show p - 16 + ((17 : ℕ) : ℤ) = p + 1 by push_cast; ring] at h17
  rw [h16] at hlow
  rw [h17] at hhigh
  have hquot : Binary64.value bits = Binary64.value bits / 10 ^ (p - 16) * 10 ^ (p - 16) := by
    rw [div_mul_cancel₀ _ hunit.ne']
  generalize Binary64.value bits / 10 ^ (p - 16) = y at hquot
  rw [hquot] at hlow hhigh
  have hy16 : (10 : ℚ) ^ 16 ≤ y := le_of_mul_le_mul_right hlow hunit
  have hy17 : y < 10 ^ 17 := lt_of_mul_lt_mul_right hhigh hunit.le
  have hround := abs_sub_round y
  have hclose := abs_le.mp hround
  have hn16 : (10 : ℤ) ^ 16 ≤ round y := by
    have hlt : ((10 : ℤ) ^ 16 - 1 : ℚ) < round y := by
      push_cast
      linarith [hclose.2]
    have hint : (10 : ℤ) ^ 16 - 1 < round y := by exact_mod_cast hlt
    linarith
  have hn17 : round y ≤ (10 : ℤ) ^ 17 := by
    have hlt : (round y : ℚ) < (10 : ℤ) ^ 17 + 1 := by
      push_cast
      linarith [hclose.1]
    have hint : round y < (10 : ℤ) ^ 17 + 1 := by exact_mod_cast hlt
    linarith
  obtain ⟨n, hn⟩ := Int.eq_ofNat_of_zero_le (le_trans (by norm_num) hn16)
  rw [hn] at hround hn16 hn17
  have hreads : Reads bits (value n (p - 16)) := by
    refine reads_of_close bits h _ ?_
    have hspacing := spacing_bound bits h
    rw [hquot] at hspacing ⊢
    rw [value, ← sub_mul, abs_mul, abs_of_pos hunit, abs_sub_comm]
    push_cast at hround
    have h₁ : |y - n| * 10 ^ (p - 16) ≤ 1 / 2 * 10 ^ (p - 16) := mul_le_mul_of_nonneg_right hround hunit.le
    have h₂ : 10 ^ 16 * (10 : ℚ) ^ (p - 16) ≤ y * 10 ^ (p - 16) := mul_le_mul_of_nonneg_right hy16 hunit.le
    linarith
  rcases lt_or_eq_of_le hn17 with hlt | heq
  · refine ⟨n, p - 16, ?_, ?_, hreads⟩
    · have : (0 : ℤ) < n := lt_of_lt_of_le (by norm_num) hn16
      exact_mod_cast this
    · rw [digitCount_le_iff _ _ (by decide)]
      exact_mod_cast hlt
  · refine ⟨1, p + 1, by decide, by decide, ?_⟩
    have hvalue : value n (p - 16) = value 1 (p + 1) := by
      have hcast : (n : ℚ) = 10 ^ 17 := by exact_mod_cast heq
      rw [value, value, hcast, ← h17]
      push_cast
      ring
    rw [← hvalue]
    exact hreads

end Acdp.Foundation.Decimal
