import Acdp.Jcs.Midpoint
import Mathlib.Algebra.Order.Group.Int

namespace Acdp.Jcs.Words

open Acdp.Foundation

abbrev U128 := BitVec 128

def mulFives : ℕ → U128 → Option U128
  | 0, acc => some acc
  | p + 1, acc => if acc.umulOverflow 5 then none else mulFives p (acc * 5)

def checkedScale (v : U128) (p2 p5 : UInt32) : Option U128 :=
  if 128 ≤ p2 ∨ v.clz.toNat < p2.toNat then none else mulFives p5.toNat (v <<< p2.toNat)

def isExactDecimalMidpoint (abs : UInt64) (t : U128) (e : Int32) : Bool :=
  let frac : UInt64 := abs &&& (((1 : UInt64) <<< 52) - 1)
  let biased : Int32 := ((abs >>> 52) &&& 0x7ff).toUInt32.toInt32
  let (m, q) : U128 × Int32 :=
    if biased = 0 then (frac.toBitVec.setWidth 128, -1074)
    else ((frac ||| ((1 : UInt64) <<< 52)).toBitVec.setWidth 128, biased - 1075)
  if m = 0 then false
  else
    let two := q + 1 - e
    match checkedScale m (max two 0).toUInt32 (max (-e) 0).toUInt32,
        checkedScale t (max (-two) 0).toUInt32 (max e 0).toUInt32 with
    | some a, some b => a == b
    | _, _ => false

section Scale

theorem mulFives_toNat (p : ℕ) (acc : U128) :
    (mulFives p acc).map BitVec.toNat = Jcs.mulFives p acc.toNat := by
  induction p generalizing acc with
  | zero => rfl
  | succ p ih =>
    have hfive : (5 : U128).toNat = 5 := rfl
    rw [mulFives, Jcs.mulFives, BitVec.umulOverflow, hfive]
    by_cases h : acc.toNat * 5 < 2 ^ 128
    · rw [if_neg (by simpa using h), if_pos h, ih, BitVec.toNat_mul, hfive, Nat.mod_eq_of_lt h]
    · rw [if_pos (by simpa using h), if_neg h]
      rfl

theorem clz_eq_size (v : U128) : v.clz.toNat = 128 - v.toNat.size := by
  by_cases hv : v = 0#128
  · subst hv
    decide +kernel
  · have hlow := BitVec.two_pow_sub_clz_le_toNat_of_ne_zero (by decide) hv
    have hhigh := v.toNat_lt_two_pow_sub_clz
    have hclz : v.clz.toNat < 128 := BitVec.clz_lt_iff_ne_zero.mpr hv
    have hupper : v.toNat.size ≤ 128 - v.clz.toNat := Nat.size_le.mpr hhigh
    have hlower : 128 - 1 - v.clz.toNat < v.toNat.size := Nat.lt_size.mpr hlow
    omega

theorem shiftLeft_toNat (v : U128) (n : ℕ) (h : n ≤ v.clz.toNat) : (v <<< n).toNat = v.toNat * 2 ^ n := by
  have hclz : v.clz.toNat ≤ 128 := by
    rw [clz_eq_size]
    exact Nat.sub_le _ _
  have hfits : v.toNat * 2 ^ n < 2 ^ 128 := by
    calc v.toNat * 2 ^ n < 2 ^ (128 - v.clz.toNat) * 2 ^ n :=
          Nat.mul_lt_mul_of_pos_right v.toNat_lt_two_pow_sub_clz (by positivity)
      _ ≤ 2 ^ 128 := by
          rw [← pow_add]
          exact Nat.pow_le_pow_right (by decide) (by omega)
  rw [BitVec.toNat_shiftLeft, Nat.shiftLeft_eq, Nat.mod_eq_of_lt hfits]

theorem checkedScale_toNat (v : U128) (p2 p5 : UInt32) :
    (checkedScale v p2 p5).map BitVec.toNat = Jcs.checkedScale v.toNat p2.toNat p5.toNat := by
  have hshift : (128 : UInt32) ≤ p2 ↔ 128 ≤ p2.toNat := UInt32.le_iff_toNat_le
  rw [checkedScale, Jcs.checkedScale, ← clz_eq_size]
  simp only [hshift]
  split_ifs with h
  · rfl
  · rw [not_or] at h
    rw [mulFives_toNat, shiftLeft_toNat v _ (not_lt.mp h.2)]

end Scale

section Words

theorem bmod_word (z : ℤ) (hlo : -2 ^ 31 ≤ z) (hhi : z < 2 ^ 31) : z.bmod (2 ^ 32) = z := by
  rw [Int.bmod_def]
  split_ifs <;> omega

theorem toUInt32_max_zero (x : Int32) : (max x 0).toUInt32.toNat = (max x.toInt 0).toNat := by
  have hmax : max x 0 = if x ≤ 0 then 0 else x := rfl
  have hzero : x ≤ 0 ↔ x.toInt ≤ 0 := by rw [Int32.le_iff_toInt_le, Int32.toInt_zero]
  rw [hmax]
  split_ifs with h
  · rw [max_eq_right (hzero.mp h)]
    rfl
  · have hpos := not_le.mp (fun hle => h (hzero.mpr hle))
    have hle : (0 : Int32) ≤ x := by
      rw [Int32.le_iff_toInt_le, Int32.toInt_zero]
      exact hpos.le
    rw [Int32.toNat_toUInt32_of_le hle, max_eq_left hpos.le, Int32.toNatClampNeg]

variable (abs : UInt64)

theorem fractionMask : ((1 : UInt64) <<< 52) - 1 = 0xfffffffffffff := by decide

theorem biasedExponent_lt : (biasedExponent abs).toNat < 2 ^ 11 := by
  rw [biasedExponent, UInt64.toNat_and]
  exact Nat.and_lt_two_pow _ (by decide)

theorem biased_toInt : (biasedExponent abs).toUInt32.toInt32.toInt = ((biasedExponent abs).toNat : ℤ) := by
  have hlt := biasedExponent_lt abs
  rw [Int32.toInt, UInt32.toBitVec_toInt32, BitVec.toInt_eq_toNat_bmod, UInt32.toNat_toBitVec,
    UInt64.toNat_toUInt32, Nat.mod_eq_of_lt (by omega), bmod_word _ (by omega) (by omega)]

theorem fraction_lt : (abs &&& 0xfffffffffffff).toNat < 2 ^ 52 := by
  rw [UInt64.toNat_and]
  exact Nat.and_lt_two_pow _ (by decide)

theorem implicitBit_toNat (frac : UInt64) (hlt : frac.toNat < 2 ^ 52) :
    (frac ||| ((1 : UInt64) <<< 52)).toNat = frac.toNat + 2 ^ 52 := by
  have hbit : ((1 : UInt64) <<< 52).toNat = 2 ^ 52 := by decide
  have hor := Nat.two_pow_add_eq_or_of_lt hlt 1
  rw [mul_one] at hor
  rw [UInt64.toNat_or, hbit, Nat.or_comm, ← hor, Nat.add_comm]

theorem widen_toNat (x : UInt64) : (x.toBitVec.setWidth 128).toNat = x.toNat := by
  rw [BitVec.toNat_setWidth, UInt64.toNat_toBitVec, Nat.mod_eq_of_lt]
  exact lt_of_lt_of_le x.toNat_lt (by decide)

end Words

def InRange (e : Int32) : Prop := -2 ^ 31 + 973 ≤ e.toInt ∧ e.toInt ≤ 2 ^ 31 - 1074

instance (e : Int32) : Decidable (InRange e) :=
  inferInstanceAs (Decidable (-2 ^ 31 + 973 ≤ e.toInt ∧ e.toInt ≤ 2 ^ 31 - 1074))

section Test

variable (q e : Int32) (hq : -1074 ≤ q.toInt ∧ q.toInt ≤ 971) (he : InRange e)
include hq he

theorem two_toInt : (q + 1 - e).toInt = q.toInt + 1 - e.toInt := by
  obtain ⟨hlo, hhi⟩ := he
  have hone : (1 : Int32).toInt = 1 := by decide
  rw [Int32.toInt_sub, Int32.toInt_add, hone, bmod_word (q.toInt + 1) (by omega) (by omega),
    bmod_word _ (by omega) (by omega)]

theorem neg_two_toInt : (-(q + 1 - e)).toInt = -(q.toInt + 1 - e.toInt) := by
  obtain ⟨hlo, hhi⟩ := id he
  rw [Int32.toInt_neg, two_toInt q e hq he, bmod_word _ (by omega) (by omega)]

omit hq in
theorem neg_toInt : (-e).toInt = -e.toInt := by
  obtain ⟨hlo, hhi⟩ := he
  rw [Int32.toInt_neg, bmod_word _ (by omega) (by omega)]

theorem compare_eq (m t : U128) :
    (match checkedScale m (max (q + 1 - e) 0).toUInt32 (max (-e) 0).toUInt32,
        checkedScale t (max (-(q + 1 - e)) 0).toUInt32 (max e 0).toUInt32 with
      | some a, some b => a == b
      | _, _ => false) =
    match Jcs.checkedScale m.toNat (max (q.toInt + 1 - e.toInt) 0).toNat (max (-e.toInt) 0).toNat,
        Jcs.checkedScale t.toNat (max (-(q.toInt + 1 - e.toInt)) 0).toNat (max e.toInt 0).toNat with
      | some a, some b => a == b
      | _, _ => false := by
  have hleft := checkedScale_toNat m (max (q + 1 - e) 0).toUInt32 (max (-e) 0).toUInt32
  have hright := checkedScale_toNat t (max (-(q + 1 - e)) 0).toUInt32 (max e 0).toUInt32
  simp only [toUInt32_max_zero, two_toInt q e hq he, neg_two_toInt q e hq he, neg_toInt e he] at hleft hright
  rw [← hleft, ← hright]
  cases checkedScale m (max (q + 1 - e) 0).toUInt32 (max (-e) 0).toUInt32 with
  | none => rfl
  | some a =>
    cases checkedScale t (max (-(q + 1 - e)) 0).toUInt32 (max e 0).toUInt32 with
    | none => rfl
    | some b =>
      rw [Bool.eq_iff_iff]
      simp [BitVec.toNat_inj]

end Test

theorem test_eq (t : U128) (e : Int32) (he : InRange e) (word : U128 × Int32) (exact : ℕ × ℤ)
    (hrange : -1074 ≤ word.2.toInt ∧ word.2.toInt ≤ 971) (hm : word.1.toNat = exact.1)
    (hq : word.2.toInt = exact.2) :
    (if word.1 = 0 then false else
      match checkedScale word.1 (max (word.2 + 1 - e) 0).toUInt32 (max (-e) 0).toUInt32,
          checkedScale t (max (-(word.2 + 1 - e)) 0).toUInt32 (max e 0).toUInt32 with
      | some a, some b => a == b
      | _, _ => false) =
    if exact.1 = 0 then false else
      match Jcs.checkedScale exact.1 (max (exact.2 + 1 - e.toInt) 0).toNat (max (-e.toInt) 0).toNat,
          Jcs.checkedScale t.toNat (max (-(exact.2 + 1 - e.toInt)) 0).toNat (max e.toInt 0).toNat with
      | some a, some b => a == b
      | _, _ => false := by
  rw [← hm, ← hq]
  have hzero : word.1 = 0 ↔ word.1.toNat = 0 := by
    rw [← BitVec.toNat_inj, BitVec.ofNat_eq_ofNat, BitVec.toNat_ofNat, Nat.zero_mod]
  by_cases h : word.1.toNat = 0
  · rw [if_pos h, if_pos (hzero.mpr h)]
  · rw [if_neg h, if_neg (fun hm => h (hzero.mp hm)), compare_eq word.2 e hrange he]

theorem isExactDecimalMidpoint_eq (abs : UInt64) (t : U128) (e : Int32) (hfinite : biasedExponent abs ≠ 0x7ff)
    (he : InRange e) : isExactDecimalMidpoint abs t e = Jcs.isExactDecimalMidpoint abs t.toNat e.toInt := by
  have hlt := biasedExponent_lt abs
  have htop : (biasedExponent abs).toNat ≠ 2047 := fun h => hfinite (UInt64.toNat_inj.mp h)
  have hbiased := biased_toInt abs
  have hzero : (biasedExponent abs).toUInt32.toInt32 = 0 ↔ (biasedExponent abs).toNat = 0 := by
    rw [← Int32.toInt_inj, hbiased, Int32.toInt_zero, Int.natCast_eq_zero]
  have hnormal : (biasedExponent abs).toNat ≠ 0 →
      ((biasedExponent abs).toUInt32.toInt32 - 1075).toInt = ((biasedExponent abs).toNat : ℤ) - 1075 := by
    intro hb
    have hbias : (1075 : Int32).toInt = 1075 := by decide
    rw [Int32.toInt_sub, hbiased, hbias, bmod_word _ (by omega) (by omega)]
  have hsubnormal : (-1074 : Int32).toInt = -1074 := by decide
  have hfold : (abs >>> 52) &&& 0x7ff = biasedExponent abs := rfl
  rw [isExactDecimalMidpoint, Jcs.isExactDecimalMidpoint, fractionMask, hfold]
  refine test_eq t e he
    (if (biasedExponent abs).toUInt32.toInt32 = 0 then
      ((abs &&& (0xfffffffffffff : UInt64)).toBitVec.setWidth 128, (-1074 : Int32))
    else (((abs &&& (0xfffffffffffff : UInt64)) ||| ((1 : UInt64) <<< 52)).toBitVec.setWidth 128,
      (biasedExponent abs).toUInt32.toInt32 - 1075))
    (if (biasedExponent abs).toNat = 0 then ((abs &&& (0xfffffffffffff : UInt64)).toNat, (-1074 : ℤ))
    else ((abs &&& (0xfffffffffffff : UInt64)).toNat + 2 ^ 52, ((biasedExponent abs).toNat : ℤ) - 1075))
    ?range ?significand ?exponent
  case range =>
    by_cases hb : (biasedExponent abs).toNat = 0
    · rw [if_pos (hzero.mpr hb), hsubnormal]
      decide
    · rw [if_neg (mt hzero.mp hb), hnormal hb]
      omega
  case significand =>
    by_cases hb : (biasedExponent abs).toNat = 0
    · rw [if_pos (hzero.mpr hb), if_pos hb]
      exact widen_toNat _
    · rw [if_neg (mt hzero.mp hb), if_neg hb]
      exact (widen_toNat _).trans (implicitBit_toNat _ (fraction_lt abs))
  case exponent =>
    by_cases hb : (biasedExponent abs).toNat = 0
    · rw [if_pos (hzero.mpr hb), if_pos hb, hsubnormal]
    · rw [if_neg (mt hzero.mp hb), if_neg hb]
      exact hnormal hb

/-- The test is exact on every positive finite float and every decimal exponent for which no `i32` operation
overflows, those of a printed float among them. -/
theorem exact_decimal_midpoint_iff (abs : UInt64) (hpos : 0 < abs.toNat) (hfinite : abs.toNat < 2047 * 2 ^ 52)
    (t : U128) (hodd : t.toNat % 2 = 1) (ht : t.toNat ≤ 2 * 10 ^ 17 + 1) (e : Int32) (he : InRange e) :
    isExactDecimalMidpoint abs t e = true ↔
      (Binary64.significand abs.toNat : ℚ) * 2 ^ Binary64.exponent abs.toNat =
        t.toNat * 10 ^ e.toInt / 2 := by
  have hword : abs.toNat < 2 ^ 63 := lt_of_lt_of_le hfinite (by norm_num)
  have hbiased : biasedExponent abs ≠ 0x7ff := by
    intro h
    have hnat := biasedExponent_toNat abs hword
    rw [h, Binary64.biased] at hnat
    have hdiv : abs.toNat / 2 ^ 52 < 2047 := Nat.div_lt_of_lt_mul (by rwa [Nat.mul_comm])
    rw [← hnat] at hdiv
    exact absurd hdiv (by decide)
  have hbound : t.toNat < 2 ^ 58 := lt_of_le_of_lt ht (by norm_num)
  rw [isExactDecimalMidpoint_eq abs t e hbiased he,
    Jcs.isExactDecimalMidpoint_iff abs hword hpos t.toNat e.toInt hodd hbound, Binary64.value, Binary64.ulp]

theorem exact_decimal_midpoint_tie :
    isExactDecimalMidpoint 0x43143ff3c1cb0959 28499078475624125 (-1) = true ∧
      (Binary64.significand 0x43143ff3c1cb0959 : ℚ) * 2 ^ Binary64.exponent 0x43143ff3c1cb0959 =
        (28499078475624125 : ℕ) * 10 ^ (-1 : ℤ) / 2 := by
  have htest : isExactDecimalMidpoint 0x43143ff3c1cb0959 28499078475624125 (-1) = true := by decide +kernel
  exact ⟨htest, (exact_decimal_midpoint_iff 0x43143ff3c1cb0959 (by decide) (by decide) 28499078475624125
    (by decide) (by decide) (-1) (by decide +kernel)).mp htest⟩

end Acdp.Jcs.Words
