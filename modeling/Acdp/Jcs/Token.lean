import Acdp.Jcs.Shortest
import Mathlib.Data.List.TakeWhile

namespace Acdp.Jcs

open Acdp.Types
open Acdp.Foundation
open Acdp.Foundation.Binary64 (Reads)
open Acdp.Foundation.Decimal (digitCount)

def readMantissa (cs : List Char) : Option (ℕ × ℕ) :=
  let whole := cs.takeWhile (· ≠ '.')
  let fraction := (cs.dropWhile (· ≠ '.')).drop 1
  (Text.parseDigits (whole ++ fraction)).map (fun s => (s, fraction.length))

/-- The decimal that a non-negative number token stands for. -/
def readNumber (cs : List Char) : Option ℚ :=
  let mantissa := cs.takeWhile (· ≠ 'e')
  let tail := (cs.dropWhile (· ≠ 'e')).drop 1
  match readMantissa mantissa, (if tail = [] then some 0 else Text.parseSigned tail) with
  | some (s, places), some e => some (Decimal.value s (e - places))
  | _, _ => none

section Reader

variable {cs : List Char} {x : Char} (h : x ∉ cs)

include h

theorem takeWhile_ne_append (rest : List Char) :
    (cs ++ x :: rest).takeWhile (· ≠ x) = cs ∧ (cs ++ x :: rest).dropWhile (· ≠ x) = x :: rest := by
  have hne : ∀ c ∈ cs, decide (c ≠ x) = true := fun c hc => decide_eq_true (ne_of_mem_of_not_mem hc h)
  constructor
  · rw [List.takeWhile_append_of_pos hne, List.takeWhile_cons_of_neg (by simp), List.append_nil]
  · rw [List.dropWhile_append_of_pos hne, List.dropWhile_cons_of_neg (by simp)]

theorem takeWhile_ne_self : cs.takeWhile (· ≠ x) = cs ∧ cs.dropWhile (· ≠ x) = [] := by
  have hne : ∀ c ∈ cs, decide (c ≠ x) = true := fun c hc => decide_eq_true (ne_of_mem_of_not_mem hc h)
  exact ⟨List.takeWhile_eq_self_iff.mpr hne, List.dropWhile_eq_nil_iff.mpr hne⟩

end Reader

theorem not_mem_of_digits {cs : List Char} (hdigits : ∀ c ∈ cs, c.isDigit = true) {x : Char}
    (hx : x.isDigit = false) : x ∉ cs := by
  intro hmem
  rw [hdigits x hmem] at hx
  cases hx

theorem parseDigits_of_digits {cs : List Char} (hne : cs ≠ []) (hdigits : ∀ c ∈ cs, c.isDigit = true) :
    Text.parseDigits cs = some (Nat.ofDigitChars 10 cs 0) := by
  rw [Text.parseDigits, if_pos ⟨hne, List.all_eq_true.mpr hdigits⟩]

theorem readMantissa_whole {cs : List Char} (hne : cs ≠ []) (hdigits : ∀ c ∈ cs, c.isDigit = true) :
    readMantissa cs = some (Nat.ofDigitChars 10 cs 0, 0) := by
  obtain ⟨htake, hdrop⟩ := takeWhile_ne_self (not_mem_of_digits hdigits (x := '.') (by decide))
  rw [readMantissa, htake, hdrop, List.drop_nil, List.append_nil, parseDigits_of_digits hne hdigits]
  rfl

theorem readMantissa_point {whole fraction : List Char} (hne : whole ≠ [])
    (hwhole : ∀ c ∈ whole, c.isDigit = true) (hfraction : ∀ c ∈ fraction, c.isDigit = true) :
    readMantissa (whole ++ '.' :: fraction) =
      some (Nat.ofDigitChars 10 (whole ++ fraction) 0, fraction.length) := by
  obtain ⟨htake, hdrop⟩ := takeWhile_ne_append (not_mem_of_digits hwhole (x := '.') (by decide)) fraction
  have hdigits : ∀ c ∈ whole ++ fraction, c.isDigit = true := by
    intro c hc
    exact (List.mem_append.mp hc).elim (hwhole c) (hfraction c)
  rw [readMantissa, htake, hdrop, List.drop_one, List.tail_cons,
    parseDigits_of_digits (by simp [hne]) hdigits]
  rfl

theorem readNumber_plain {cs : List Char} (he : 'e' ∉ cs) (s places : ℕ)
    (h : readMantissa cs = some (s, places)) : readNumber cs = some (Decimal.value s (-places)) := by
  obtain ⟨htake, hdrop⟩ := takeWhile_ne_self he
  rw [readNumber, htake, hdrop, List.drop_nil, if_pos rfl, h]
  dsimp only
  rw [zero_sub]

theorem readNumber_exponent (cs tail : List Char) (he : 'e' ∉ cs) (s places : ℕ)
    (h : readMantissa cs = some (s, places)) (htail : tail ≠ []) (e : ℤ)
    (hexp : Text.parseSigned tail = some e) :
    readNumber (cs ++ 'e' :: tail) = some (Decimal.value s (e - places)) := by
  obtain ⟨htake, hdrop⟩ := takeWhile_ne_append he tail
  rw [readNumber, htake, hdrop, List.drop_one, List.tail_cons, if_neg htail, h, hexp]

theorem parseSigned_exponent (n : ℤ) : Text.parseSigned (expSign n :: intDigits n) = some n := by
  have hparse : Text.parseDigits (intDigits n) = some n.natAbs := by
    rw [intDigits, parseDigits_of_digits Nat.toDigits_ne_nil (toDigits_isDigit _),
      Nat.ofDigitChars_ten_toDigits]
  rw [expSign]
  split
  · next hn =>
    rw [Text.parseSigned, hparse, Option.map_some, Int.ofNat_eq_natCast, Int.natAbs_of_nonneg hn]
  · next hn =>
    rw [Text.parseSigned, hparse, Option.map_some, Int.ofNat_eq_natCast,
      Int.ofNat_natAbs_of_nonpos (by omega), neg_neg]

theorem readNumber_ecmaBand (s : ℕ) (n : ℤ) :
    readNumber (ecmaBand (Nat.toDigits 10 s) n) = some (Decimal.value s (n - digitCount s)) := by
  have hdigits := toDigits_isDigit s
  have hne : Nat.toDigits 10 s ≠ [] := Nat.toDigits_ne_nil
  have htake : ∀ k, ∀ c ∈ (Nat.toDigits 10 s).take k, c.isDigit = true :=
    fun k c hc => hdigits c (List.mem_of_mem_take hc)
  have hdrop : ∀ k, ∀ c ∈ (Nat.toDigits 10 s).drop k, c.isDigit = true :=
    fun k c hc => hdigits c (List.mem_of_mem_drop hc)
  have hpoint : ∀ k, 0 < k → readMantissa ((Nat.toDigits 10 s).take k ++ '.' :: (Nat.toDigits 10 s).drop k) =
      some (s, digitCount s - k) := by
    intro k hk
    have htake' : (Nat.toDigits 10 s).take k ≠ [] := by
      rw [ne_eq, List.take_eq_nil_iff]
      exact fun h => h.elim (by omega) hne
    rw [readMantissa_point htake' (htake k) (hdrop k), List.take_append_drop, Nat.ofDigitChars_ten_toDigits,
      List.length_drop]
    rfl
  have hfree : ∀ k, 'e' ∉ (Nat.toDigits 10 s).take k ++ '.' :: (Nat.toDigits 10 s).drop k := by
    intro k
    rw [List.mem_append, List.mem_cons, not_or, not_or]
    exact ⟨not_mem_of_digits (htake k) (by decide), by decide, not_mem_of_digits (hdrop k) (by decide)⟩
  have hcount : (Nat.toDigits 10 s).length = digitCount s := rfl
  have hpos := Decimal.digitCount_pos s
  rw [ecmaBand, hcount]
  split
  · next hband =>
    have hall : ∀ c ∈ Nat.toDigits 10 s ++ zeros (n - digitCount s), c.isDigit = true := by
      intro c hc
      exact (List.mem_append.mp hc).elim (hdigits c) (zeros_isDigit _ c)
    rw [readNumber_plain (not_mem_of_digits hall (by decide)) _ _ (readMantissa_whole (by simp) hall),
      Nat.ofDigitChars_append, Nat.ofDigitChars_ten_toDigits, zeros, Nat.ofDigitChars_replicate_zero,
      Decimal.value,
      Decimal.value]
    push_cast
    rw [mul_one, mul_comm, ← zpow_natCast, Int.toNat_of_nonneg (by omega)]
  · next hfirst =>
    split
    · next hband =>
      rw [readNumber_plain (hfree _) _ _ (hpoint n.toNat (by omega))]
      congr 2
      omega
    · next hsecond =>
      split
      · next hband =>
        have hfraction : ∀ c ∈ zeros (-n) ++ Nat.toDigits 10 s, c.isDigit = true := by
          intro c hc
          exact (List.mem_append.mp hc).elim (zeros_isDigit _ c) (hdigits c)
        have hmantissa :=
          readMantissa_point (List.cons_ne_nil '0' []) (List.all_eq_true.mp (by decide)) hfraction
        have hfree' : 'e' ∉ ['0'] ++ '.' :: (zeros (-n) ++ Nat.toDigits 10 s) := by
          intro hmem
          rcases List.mem_append.mp hmem with hzero | hrest
          · exact absurd hzero (by decide)
          · rcases List.mem_cons.mp hrest with hdot | hdigit
            · exact absurd hdot (by decide)
            · exact not_mem_of_digits hfraction (by decide) hdigit
        have hread := readNumber_plain hfree' _ _ hmantissa
        rw [List.singleton_append] at hread
        rw [hread, List.singleton_append, Nat.ofDigitChars_cons, Nat.ofDigitChars_append, zeros,
          Nat.ofDigitChars_replicate_zero, List.length_append, List.length_replicate]
        simp only [Nat.sub_self, Nat.mul_zero, Nat.add_zero, Nat.ofDigitChars_ten_toDigits]
        rw [hcount]
        congr 2
        push_cast
        omega
      · split
        · next hsingle =>
          have hmantissa := readMantissa_whole hne hdigits
          rw [readNumber_exponent _ _ (not_mem_of_digits hdigits (by decide)) _ _ hmantissa (by simp) _
            (parseSigned_exponent (n - 1)), Nat.ofDigitChars_ten_toDigits, hsingle, Nat.cast_zero, sub_zero]
        · have hread := readNumber_exponent _ (expSign (n - 1) :: intDigits (n - 1)) (hfree 1) _ _
            (hpoint 1 (by decide)) (by simp) _ (parseSigned_exponent (n - 1))
          rw [List.append_assoc, List.cons_append] at hread
          rw [hread]
          congr 2
          omega

end Acdp.Jcs
