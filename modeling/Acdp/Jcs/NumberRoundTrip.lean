import Acdp.Jcs.Token

namespace Acdp.Jcs

open Acdp.Foundation
open Acdp.Foundation.Binary64 (Reads ulp)
open Acdp.Foundation.Decimal (digitCount)

def Positive (bits : UInt64) : Prop := 0 < bits.toNat ∧ bits.toNat < 0x7ff0000000000000

def correctedDigits (fmt : FloatFormat) (bits : UInt64) : List Char :=
  let sci := fmt (absBits bits)
  let digits := significantDigits sci
  (roundHalfEvenCorrection (absBits bits) digits sci.exponent).getD digits

def FormatsShortest (fmt : FloatFormat) (bits : UInt64) : Prop :=
  ∃ s e, (fmt bits).mantissa.filter (· ≠ '.') = Nat.toDigits 10 s ∧
    (fmt bits).exponent = e + (digitCount s - 1) ∧ Shortest bits.toNat s e

structure RoundTrips (fmt : FloatFormat) (bits : UInt64) : Prop where
  reads : Reads bits.toNat (Decimal.value (Nat.ofDigitChars 10 (correctedDigits fmt bits) 0)
    ((fmt bits).exponent + 1 - (correctedDigits fmt bits).length))
  length : (correctedDigits fmt bits).length = (significantDigits (fmt bits)).length
  noTrailingZero : (correctedDigits fmt bits).getLast? ≠ some '0'
  even : ∀ s₁ e₁ s₂ e₂, Shortest bits.toNat s₁ e₁ → Shortest bits.toNat s₂ e₂ →
    Decimal.value s₁ e₁ ≠ Decimal.value s₂ e₂ → Nat.ofDigitChars 10 (correctedDigits fmt bits) 0 % 2 = 0
  token : ∃ x, readNumber (ecmaNumberString fmt bits) = some x ∧ Reads bits.toNat x

theorem getLast_toDigits (s : ℕ) : (Nat.toDigits 10 s).getLast? = some (Nat.digitChar (s % 10)) := by
  rcases lt_or_ge s 10 with hlt | hge
  · rw [Nat.toDigits_of_lt_base hlt, Nat.mod_eq_of_lt hlt]
    rfl
  · rw [Nat.toDigits_of_base_le (by decide) hge, List.getLast?_append]
    rfl

theorem digitChar_ne_zero : ∀ d < 10, d ≠ 0 → Nat.digitChar d ≠ '0' := by decide

theorem getLast_ne_zero {bits s : ℕ} {e : ℤ} (h : Shortest bits s e) :
    (Nat.toDigits 10 s).getLast? ≠ some '0' := by
  rw [getLast_toDigits, ne_eq, Option.some.injEq]
  exact digitChar_ne_zero _ (Nat.mod_lt _ (by decide)) h.not_trailing

theorem significantDigits_of_shortest {bits s : ℕ} {e : ℤ} (h : Shortest bits s e) (sci : LowerExp)
    (hmantissa : sci.mantissa.filter (· ≠ '.') = Nat.toDigits 10 s) : significantDigits sci =
      Nat.toDigits 10 s := by
  have htrim : trimEndZeros (Nat.toDigits 10 s) = Nat.toDigits 10 s := by
    rw [trimEndZeros]
    have hlast := getLast_ne_zero h
    rw [← List.head?_reverse] at hlast
    cases hrev : (Nat.toDigits 10 s).reverse with
    | nil =>
      rw [List.reverse_eq_nil_iff] at hrev
      exact absurd hrev Nat.toDigits_ne_nil
    | cons c cs =>
      rw [hrev, List.head?_cons] at hlast
      have hc : (c == '0') = false := beq_false_of_ne (fun hc => hlast (congrArg some hc))
      rw [List.dropWhile_cons_of_neg (by rw [hc]; decide), ← hrev, List.reverse_reverse]
  rw [significantDigits, hmantissa, htrim]
  split
  · next hnil => exact absurd hnil Nat.toDigits_ne_nil
  · rfl

section Positive

variable {bits : UInt64} (hbits : Positive bits)

include hbits

theorem absBits_of_positive : absBits bits = bits := by
  rw [← UInt64.toNat_inj, absBits, UInt64.toNat_and]
  have hmask := Nat.and_two_pow_sub_one_eq_mod bits.toNat 63
  change bits.toNat &&& (2 ^ 63 - 1) = _
  rw [hmask, Nat.mod_eq_of_lt]
  exact lt_trans hbits.2 (by norm_num)

theorem not_isSignNegative : isSignNegative bits = false := by
  rw [isSignNegative]
  refine beq_false_of_ne ?_
  intro hone
  have hnat := congrArg UInt64.toNat hone
  rw [UInt64.toNat_shiftRight] at hnat
  change bits.toNat >>> 63 = 1 at hnat
  rw [Nat.shiftRight_eq_div_pow] at hnat
  have := hbits.2
  omega

theorem ecmaNumberString_of_positive (fmt : FloatFormat) :
    ecmaNumberString fmt bits = ecmaBand (correctedDigits fmt bits) ((fmt bits).exponent + 1) := by
  rw [ecmaNumberString, correctedDigits, absBits_of_positive hbits, not_isSignNegative hbits]
  rfl

theorem roundTrips_of_ne (fmt : FloatFormat) (hfmt : FormatsShortest fmt bits)
    (hne : bits.toNat ≠ doubleRounded) : RoundTrips fmt bits := by
  obtain ⟨s, e, hmantissa, hexp, hshort⟩ := hfmt
  have hlt : bits.toNat < 2 ^ 63 := lt_trans hbits.2 (by norm_num)
  obtain ⟨s', hdigits, hshort', heven⟩ := correction_shortest bits hbits.1 hlt hshort hne
  have hsig := significantDigits_of_shortest hshort _ hmantissa
  have hcorrected : correctedDigits fmt bits = Nat.toDigits 10 s' := by
    rw [correctedDigits, absBits_of_positive hbits, hsig, hexp]
    exact hdigits
  have hcount : digitCount s' = digitCount s :=
    le_antisymm (hshort'.fewest s e hshort.pos hshort.reads) (hshort.fewest s' e hshort'.pos hshort'.reads)
  have hplace : (fmt bits).exponent + 1 - digitCount s' = e := by
    rw [hexp, hcount]
    ring
  refine ⟨?_, ?_, ?_, ?_, ?_⟩
  · rw [hcorrected, Nat.ofDigitChars_ten_toDigits]
    change Reads _ (Decimal.value s' ((fmt bits).exponent + 1 - digitCount s'))
    rw [hplace]
    exact hshort'.reads
  · rw [hcorrected, hsig]
    exact hcount
  · rw [hcorrected]
    exact getLast_ne_zero hshort'
  · rw [hcorrected, Nat.ofDigitChars_ten_toDigits]
    exact heven
  · refine ⟨Decimal.value s' e, ?_, hshort'.reads⟩
    rw [ecmaNumberString_of_positive hbits, hcorrected, readNumber_ecmaBand, hplace]

end Positive

section DoubleRounded

theorem value_doubleRounded : Binary64.value doubleRounded = 2 ^ (-24 : ℤ) := by
  have hsig : Binary64.significand doubleRounded = 2 ^ 52 := by decide
  have hexp : Binary64.exponent doubleRounded = -76 := by decide
  rw [Binary64.value, ulp, hsig, hexp]
  norm_num

theorem lower_doubleRounded : Binary64.lower doubleRounded = 2 ^ (-24 : ℤ) - 2 ^ (-78 : ℤ) := by
  have hexp : Binary64.exponent (doubleRounded - 1) = -77 := by decide
  rw [Binary64.lower_eq _ (by decide), value_doubleRounded, ulp, hexp]
  norm_num

theorem upper_doubleRounded : Binary64.upper doubleRounded = 2 ^ (-24 : ℤ) + 2 ^ (-77 : ℤ) := by
  have hexp : Binary64.exponent doubleRounded = -76 := by decide
  rw [Binary64.upper_eq, value_doubleRounded, ulp, hexp]
  norm_num

theorem reads_doubleRounded : Reads doubleRounded (Decimal.value 5960464477539063 (-23)) := by
  rw [Reads, lower_doubleRounded, upper_doubleRounded, Decimal.value]
  refine ⟨.inl ?_, .inl ?_⟩
  · norm_num
  · norm_num

theorem not_reads_doubleRounded : ¬ Reads doubleRounded (Decimal.value 5960464477539062 (-23)) := by
  rintro ⟨hlow, -⟩
  rw [lower_doubleRounded, Decimal.value] at hlow
  rcases hlow with hlt | ⟨heq, -⟩
  · norm_num at hlt
  · norm_num at heq

theorem eq_of_reads_doubleRounded (s : ℕ) (e : ℤ) (hcount : digitCount s ≤ 16)
    (hreads : Reads doubleRounded (Decimal.value s e)) :
    Decimal.value s e = Decimal.value 5960464477539063 (-23) := by
  have hlow : Binary64.lower doubleRounded ≤ Decimal.value s e := hreads.1.elim le_of_lt (fun h => h.1.le)
  have hhigh : Decimal.value s e ≤ Binary64.upper doubleRounded := hreads.2.elim le_of_lt (fun h => h.1.le)
  rw [lower_doubleRounded] at hlow
  rw [upper_doubleRounded] at hhigh
  have hfloor : (10 : ℚ) ^ (-8 : ℤ) ≤ Decimal.value s e := le_trans (by norm_num) hlow
  obtain ⟨n, hn⟩ := Decimal.multiple_of_few_digits s e (-8) 16
    ((Decimal.digitCount_le_iff s 16 (by decide)).mp hcount) hfloor
  rw [show (-8 : ℤ) - ((16 : ℕ) : ℤ) + 1 = -23 by norm_num] at hn
  rw [hn] at hlow hhigh ⊢
  have hsame : n = 5960464477539063 := by
    refine Decimal.eq_of_close n _ (-23) ?_
    rw [abs_lt]
    constructor
    · refine lt_of_lt_of_le ?_ (sub_le_sub_right hlow _)
      rw [Decimal.value]
      norm_num
    · refine lt_of_le_of_lt (sub_le_sub_right hhigh _) ?_
      rw [Decimal.value]
      norm_num
  rw [hsame]

theorem eq_of_shortest_doubleRounded {s : ℕ} {e : ℤ} (h : Shortest doubleRounded s e) :
    s = 5960464477539063 ∧ e = -23 := by
  have hcount : digitCount s ≤ 16 :=
    (h.fewest 5960464477539063 (-23) (by decide) reads_doubleRounded).trans (by decide)
  exact Decimal.value_injective h.not_trailing (by decide) (eq_of_reads_doubleRounded s e hcount h.reads)

theorem not_roundTrips_doubleRounded (fmt : FloatFormat) (bits : UInt64) (hbits : Positive bits)
    (hfmt : FormatsShortest fmt bits) (heq : bits.toNat = doubleRounded) : ¬ RoundTrips fmt bits := by
  intro hround
  obtain ⟨s, e, hmantissa, hexp, hshort⟩ := hfmt
  have hsig := significantDigits_of_shortest hshort _ hmantissa
  have hcorrection := correction_eq bits hbits.1 (lt_trans hbits.2 (by norm_num)) hshort
  have hse : s = 5960464477539063 ∧ e = -23 := by
    rw [heq] at hshort
    exact eq_of_shortest_doubleRounded hshort
  obtain ⟨rfl, rfl⟩ := hse
  have htie : Binary64.value bits.toNat = ((2 * 5960464477539063 - 1 : ℕ) : ℚ) * 10 ^ (-23 : ℤ) / 2 := by
    rw [heq, value_doubleRounded]
    norm_num
  rw [if_neg (by decide), if_pos htie] at hcorrection
  have hcorrected : correctedDigits fmt bits = Nat.toDigits 10 5960464477539062 := by
    rw [correctedDigits, absBits_of_positive hbits, hsig, hexp, hcorrection]
    rfl
  have hreads := hround.reads
  have hlength : ((Nat.toDigits 10 5960464477539062).length : ℤ) = 16 := by decide
  have hcount : (digitCount 5960464477539063 : ℤ) = 16 := by decide
  rw [hcorrected, Nat.ofDigitChars_ten_toDigits, hexp, hlength, hcount, heq] at hreads
  exact not_reads_doubleRounded hreads

end DoubleRounded

/-- Canonical numbers keep their floats, and so tell them apart, exactly away from `2^(-24)`. -/
theorem canonical_numbers_round_trip (fmt : FloatFormat) (v w : UInt64) (hv : Positive v) (hw : Positive w)
    (hfv : FormatsShortest fmt v) (hfw : FormatsShortest fmt w) :
    (RoundTrips fmt v ∧ RoundTrips fmt w ∧ (v ≠ w → ecmaNumberString fmt v ≠ ecmaNumberString fmt w)) ↔
      v.toNat ≠ doubleRounded ∧ w.toNat ≠ doubleRounded := by
  constructor
  · rintro ⟨hrv, hrw, -⟩
    exact ⟨fun heq => not_roundTrips_doubleRounded fmt v hv hfv heq hrv,
      fun heq => not_roundTrips_doubleRounded fmt w hw hfw heq hrw⟩
  · rintro ⟨hnv, hnw⟩
    have hrv := roundTrips_of_ne hv fmt hfv hnv
    have hrw := roundTrips_of_ne hw fmt hfw hnw
    refine ⟨hrv, hrw, ?_⟩
    intro hne hsame
    obtain ⟨x, hx, hreads⟩ := hrv.token
    obtain ⟨y, hy, hreads'⟩ := hrw.token
    rw [hsame, hy] at hx
    cases hx
    rcases lt_or_gt_of_ne (fun h => hne (UInt64.toNat_inj.mp h)) with hlt | hgt
    · exact Binary64.reads_unique _ _ hw.1 hlt x hreads hreads'
    · exact Binary64.reads_unique _ _ hv.1 hgt x hreads' hreads

section Samples

theorem shortest_of_grid {bits s : ℕ} {e : ℤ} (k : ℕ) (hs : 0 < s) (hk : digitCount s = k + 1)
    (hreads : Reads bits (Decimal.value s e)) (hfloor : (10 : ℚ) ^ (e + k) ≤ Binary64.lower bits)
    (hcoarse : ∀ n : ℕ, ¬ Reads bits (Decimal.value n (e + 1)))
    (hnear : |Decimal.value s e - Binary64.value bits| ≤ 10 ^ e / 2) : Shortest bits s e := by
  have hlow : ∀ x, Reads bits x → (10 : ℚ) ^ (e + k) ≤ x := by
    intro x hx
    exact hfloor.trans (hx.1.elim le_of_lt (fun h => h.1.le))
  refine ⟨hs, hreads, ?_, ?_⟩
  · intro s' e' hs' hreads'
    by_contra hlt
    have hcount : digitCount s' ≤ k := by omega
    have hpos := Decimal.digitCount_pos s'
    obtain ⟨n, hn⟩ := Decimal.multiple_of_few_digits s' e' (e + k) k
      ((Decimal.digitCount_le_iff s' k (by omega)).mp hcount) (hlow _ hreads')
    rw [add_sub_cancel_right] at hn
    rw [hn] at hreads'
    exact hcoarse n hreads'
  · intro s' e' hs' hcount hreads'
    obtain ⟨n, hn⟩ := Decimal.multiple_of_few_digits s' e' (e + k) (k + 1)
      (by rw [← hk, ← hcount]; exact Decimal.lt_pow_digitCount s') (hlow _ hreads')
    rw [show e + (k : ℤ) - ((k + 1 : ℕ) : ℤ) + 1 = e by push_cast; ring] at hn
    rw [hn]
    by_cases hsame : n = s
    · rw [hsame]
    · have hapart : (10 : ℚ) ^ e ≤ |Decimal.value n e - Decimal.value s e| := by
        by_contra hlt
        exact hsame (Decimal.eq_of_close n s e (not_le.mp hlt))
      have htriangle := abs_sub_le (Decimal.value n e) (Binary64.value bits) (Decimal.value s e)
      rw [abs_sub_comm (Binary64.value bits)] at htriangle
      linarith

theorem not_on_grid {lo hi : ℚ} (a : ℕ) (e : ℤ) (hlo : Decimal.value a e < lo)
    (hhi : hi < Decimal.value (a + 1) e) (n : ℕ) (hn : lo ≤ Decimal.value n e)
    (hn' : Decimal.value n e ≤ hi) : False := by
  have hunit : (0 : ℚ) < 10 ^ e := zpow_pos (by norm_num) _
  have h₁ : Decimal.value a e < Decimal.value n e := hlo.trans_le hn
  have h₂ : Decimal.value n e < Decimal.value (a + 1) e := hn'.trans_lt hhi
  simp only [Decimal.value] at h₁ h₂
  have hc₁ : (a : ℚ) < n := lt_of_mul_lt_mul_right h₁ hunit.le
  have hc₂ : (n : ℚ) < (a + 1 : ℕ) := lt_of_mul_lt_mul_right h₂ hunit.le
  have hi₁ : a < n := by exact_mod_cast hc₁
  have hi₂ : n < a + 1 := by exact_mod_cast hc₂
  omega

theorem Reads.bounds {bits : ℕ} {x : ℚ} (h : Reads bits x) : Binary64.lower bits ≤ x ∧
    x ≤ Binary64.upper bits :=
  ⟨h.1.elim le_of_lt (fun h => h.1.le), h.2.elim le_of_lt (fun h => h.1.le)⟩

theorem shortest_doubleRounded : Shortest doubleRounded 5960464477539063 (-23) := by
  refine shortest_of_grid 15 (by decide) (by decide) reads_doubleRounded ?_ ?_ ?_
  · rw [lower_doubleRounded]
    norm_num
  · intro n hreads
    obtain ⟨hlow, hhigh⟩ := Reads.bounds hreads
    refine not_on_grid 596046447753906 _ ?_ ?_ n hlow hhigh
    · rw [lower_doubleRounded, Decimal.value]
      norm_num
    · rw [upper_doubleRounded, Decimal.value]
      norm_num
  · rw [value_doubleRounded, Decimal.value]
    norm_num [abs_of_pos]

theorem shortest_before_doubleRounded : Shortest (doubleRounded - 1) 5960464477539062 (-23) := by
  have hexp : Binary64.exponent (doubleRounded - 1) = -77 := by decide
  have hexp' : Binary64.exponent (doubleRounded - 1 - 1) = -77 := by decide
  have hsig : Binary64.significand (doubleRounded - 1) = 2 ^ 53 - 1 := by decide
  have hvalue : Binary64.value (doubleRounded - 1) = 2 ^ (-24 : ℤ) - 2 ^ (-77 : ℤ) := by
    rw [Binary64.value, ulp, hsig, hexp]
    norm_num
  have hlower : Binary64.lower (doubleRounded - 1) = 2 ^ (-24 : ℤ) - 2 ^ (-77 : ℤ) - 2 ^ (-78 : ℤ) := by
    rw [Binary64.lower_eq _ (by decide), hvalue, ulp, hexp']
    norm_num
  have hupper : Binary64.upper (doubleRounded - 1) = 2 ^ (-24 : ℤ) - 2 ^ (-78 : ℤ) := by
    rw [Binary64.upper_eq, hvalue, ulp, hexp]
    norm_num
  refine shortest_of_grid 15 (by decide) (by decide) ?_ ?_ ?_ ?_
  · rw [Reads, hlower, hupper, Decimal.value]
    exact ⟨.inl (by norm_num), .inl (by norm_num)⟩
  · rw [hlower]
    norm_num
  · intro n hreads
    obtain ⟨hlow, hhigh⟩ := Reads.bounds hreads
    refine not_on_grid 596046447753906 _ ?_ ?_ n hlow hhigh
    · rw [hlower, Decimal.value]
      norm_num
    · rw [hupper, Decimal.value]
      norm_num
  · rw [hvalue, Decimal.value, abs_of_pos]
    · norm_num
    · norm_num

theorem shortest_tie : Shortest 0x43143ff3c1cb0959 14249539237812063 (-1) := by
  have hexp : Binary64.exponent 0x43143ff3c1cb0959 = -2 := by decide
  have hexp' : Binary64.exponent (0x43143ff3c1cb0959 - 1) = -2 := by decide
  have hsig : Binary64.significand 0x43143ff3c1cb0959 = 5699815695124825 := by decide
  have hvalue : Binary64.value 0x43143ff3c1cb0959 = 5699815695124825 / 4 := by
    rw [Binary64.value, ulp, hsig, hexp]
    norm_num
  have hlower : Binary64.lower 0x43143ff3c1cb0959 = 5699815695124825 / 4 - 1 / 8 := by
    rw [Binary64.lower_eq _ (by decide), hvalue, ulp, hexp']
    norm_num
  have hupper : Binary64.upper 0x43143ff3c1cb0959 = 5699815695124825 / 4 + 1 / 8 := by
    rw [Binary64.upper_eq, hvalue, ulp, hexp]
    norm_num
  refine shortest_of_grid 16 (by decide) (by decide) ?_ ?_ ?_ ?_
  · rw [Reads, hlower, hupper, Decimal.value]
    exact ⟨.inl (by norm_num), .inl (by norm_num)⟩
  · rw [hlower]
    norm_num
  · intro n hreads
    obtain ⟨hlow, hhigh⟩ := Reads.bounds hreads
    refine not_on_grid 1424953923781206 _ ?_ ?_ n hlow hhigh
    · rw [hlower, Decimal.value]
      norm_num
    · rw [hupper, Decimal.value]
      norm_num
  · rw [hvalue, Decimal.value, abs_of_pos]
    · norm_num
    · norm_num

theorem shortest_three : Shortest 0x4008000000000000 3 0 := by
  have hexp : Binary64.exponent 0x4008000000000000 = -51 := by decide
  have hexp' : Binary64.exponent (0x4008000000000000 - 1) = -51 := by decide
  have hsig : Binary64.significand 0x4008000000000000 = 6755399441055744 := by decide
  have hvalue : Binary64.value 0x4008000000000000 = 3 := by
    rw [Binary64.value, ulp, hsig, hexp]
    norm_num
  have hlower : Binary64.lower 0x4008000000000000 = 3 - 2 ^ (-52 : ℤ) := by
    rw [Binary64.lower_eq _ (by decide), hvalue, ulp, hexp']
    norm_num
  have hupper : Binary64.upper 0x4008000000000000 = 3 + 2 ^ (-52 : ℤ) := by
    rw [Binary64.upper_eq, hvalue, ulp, hexp]
    norm_num
  refine shortest_of_grid 0 (by decide) (by decide) ?_ ?_ ?_ ?_
  · rw [Reads, hlower, hupper, Decimal.value]
    exact ⟨.inl (by norm_num), .inl (by norm_num)⟩
  · rw [hlower]
    norm_num
  · intro n hreads
    obtain ⟨hlow, hhigh⟩ := Reads.bounds hreads
    refine not_on_grid 0 _ ?_ ?_ n hlow hhigh
    · rw [hlower, Decimal.value]
      norm_num
    · rw [hupper, Decimal.value]
      norm_num
  · rw [hvalue, Decimal.value]
    norm_num

def sampleFormat : FloatFormat := fun bits =>
  if bits = 0x3E70000000000000 then ⟨"5.960464477539063".toList, -8, mantissa_digits_of_all _ (by decide)⟩
  else if bits = 0x3E6FFFFFFFFFFFFF then
    ⟨"5.960464477539062".toList, -8, mantissa_digits_of_all _ (by decide)⟩
  else if bits = 0x43143ff3c1cb0959 then
    ⟨"1.4249539237812063".toList, 15, mantissa_digits_of_all _ (by decide)⟩
  else ⟨"3".toList, 0, mantissa_digits_of_all _ (by decide)⟩

theorem doubleRounded_token :
    FormatsShortest sampleFormat 0x3E70000000000000 ∧ FormatsShortest sampleFormat 0x3E6FFFFFFFFFFFFF ∧
      ¬ RoundTrips sampleFormat 0x3E70000000000000 ∧
      ecmaNumberString sampleFormat 0x3E70000000000000 = "5.960464477539062e-8".toList ∧
      ecmaNumberString sampleFormat 0x3E6FFFFFFFFFFFFF = "5.960464477539062e-8".toList := by
  have hfmt : FormatsShortest sampleFormat 0x3E70000000000000 :=
    ⟨5960464477539063, -23, by decide +kernel, by decide +kernel, shortest_doubleRounded⟩
  refine ⟨hfmt, ⟨5960464477539062, -23, by decide +kernel, by decide +kernel, shortest_before_doubleRounded⟩,
    ?_, by decide +kernel, by decide +kernel⟩
  exact not_roundTrips_doubleRounded sampleFormat _ ⟨by decide, by decide⟩ hfmt rfl

theorem tie_and_three_round_trip :
    RoundTrips sampleFormat 0x43143ff3c1cb0959 ∧ RoundTrips sampleFormat 0x4008000000000000 ∧
      ecmaNumberString sampleFormat 0x43143ff3c1cb0959 ≠
        ecmaNumberString sampleFormat 0x4008000000000000 := by
  have h := (canonical_numbers_round_trip sampleFormat 0x43143ff3c1cb0959 0x4008000000000000
    ⟨by decide, by decide⟩ ⟨by decide, by decide⟩
    ⟨14249539237812063, -1, by decide +kernel, by decide +kernel, shortest_tie⟩
    ⟨3, 0, by decide +kernel, by decide +kernel, shortest_three⟩).mpr ⟨by decide, by decide⟩
  exact ⟨h.1, h.2.1, h.2.2 (by decide)⟩

end Samples

end Acdp.Jcs
