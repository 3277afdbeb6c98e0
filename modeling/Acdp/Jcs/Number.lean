import Acdp.Types.Json
import Acdp.Types.Text
import Mathlib.Data.Nat.Size

namespace Acdp.Jcs

open Acdp.Types

/-- What `{:e}` prints for a positive finite `f64`: digits with at most one point, `e`, and the exponent. -/
structure LowerExp where
  mantissa : List Char
  exponent : ℤ
  mantissa_digits : ∀ c ∈ mantissa, c.isDigit = true ∨ c = '.'

theorem mantissa_digits_of_all (mantissa : List Char)
    (h : mantissa.all (fun c => c.isDigit || c = '.') = true) :
    ∀ c ∈ mantissa, c.isDigit = true ∨ c = '.' := by
  intro c hc
  simpa using List.all_eq_true.mp h c hc

abbrev FloatFormat := UInt64 → LowerExp

def absBits (bits : UInt64) : UInt64 := bits &&& 0x7fffffffffffffff

def isSignNegative (bits : UInt64) : Bool := bits >>> 63 == 1

def biasedExponent (bits : UInt64) : UInt64 := (bits >>> 52) &&& 0x7ff

def isFinite (bits : UInt64) : Bool := biasedExponent bits != 0x7ff

def expSign (e : ℤ) : Char := if 0 ≤ e then '+' else '-'

def mulFives : ℕ → ℕ → Option ℕ
  | 0, acc => some acc
  | p + 1, acc => if acc * 5 < 2 ^ 128 then mulFives p (acc * 5) else none

def checkedScale (v p2 p5 : ℕ) : Option ℕ :=
  if 128 ≤ p2 ∨ 128 - v.size < p2 then none else mulFives p5 (v * 2 ^ p2)

def isExactDecimalMidpoint (abs : UInt64) (t : ℕ) (e : ℤ) : Bool :=
  let frac := (abs &&& 0xfffffffffffff).toNat
  let biased := (biasedExponent abs).toNat
  let (m, q) : ℕ × ℤ := if biased = 0 then (frac, -1074) else (frac + 2 ^ 52, biased - 1075)
  if m = 0 then false
  else
    let two := q + 1 - e
    match checkedScale m (max two 0).toNat (max (-e) 0).toNat,
        checkedScale t (max (-two) 0).toNat (max e 0).toNat with
    | some a, some b => a == b
    | _, _ => false

def roundHalfEvenCorrection (abs : UInt64) (digits : List Char) (e10 : ℤ) : Option (List Char) :=
  if 17 < digits.length then none
  else match (Text.parseDigits digits).filter (fun s => decide (s < 2 ^ 128)) with
    | none => none
    | some s =>
      if s % 2 = 0 then none
      else
        let eLast := e10 - (digits.length - 1)
        if isExactDecimalMidpoint abs (2 * s - 1) eLast then some (Nat.toDigits 10 (s - 1))
        else if isExactDecimalMidpoint abs (2 * s + 1) eLast then some (Nat.toDigits 10 (s + 1))
        else none

def zeros (n : ℤ) : List Char := List.replicate n.toNat '0'

def intDigits (n : ℤ) : List Char := Nat.toDigits 10 n.natAbs

def ecmaBand (digits : List Char) (n : ℤ) : List Char :=
  let k : ℤ := digits.length
  if k ≤ n ∧ n ≤ 21 then digits ++ zeros (n - k)
  else if 1 ≤ n ∧ n ≤ 21 then digits.take n.toNat ++ '.' :: digits.drop n.toNat
  else if -5 ≤ n ∧ n ≤ 0 then '0' :: '.' :: (zeros (-n) ++ digits)
  else if k = 1 then digits ++ 'e' :: expSign (n - 1) :: intDigits (n - 1)
  else digits.take 1 ++ '.' :: (digits.drop 1 ++ 'e' :: expSign (n - 1) :: intDigits (n - 1))

def trimEndZeros (digits : List Char) : List Char := (digits.reverse.dropWhile (· == '0')).reverse

def significantDigits (sci : LowerExp) : List Char :=
  match trimEndZeros (sci.mantissa.filter (· ≠ '.')) with
  | [] => ['0']
  | digits => digits

def ecmaNumberString (fmt : FloatFormat) (bits : UInt64) : List Char :=
  let sci := fmt (absBits bits)
  let digits := significantDigits sci
  let digits := (roundHalfEvenCorrection (absBits bits) digits sci.exponent).getD digits
  let body := ecmaBand digits (sci.exponent + 1)
  if isSignNegative bits then '-' :: body else body

def writeNumber (fmt : FloatFormat) : Number → List Char
  | .posInt n => (toString n.toNat).toList
  | .negInt n => (toString n.toInt).toList
  | .float bits =>
    if absBits bits = 0 then ['0']
    else if ¬ isFinite bits then "null".toList
    else ecmaNumberString fmt bits

def isNumberChar (c : Char) : Bool := c.isDigit || c == '.' || c == 'e' || c == '+' || c == '-'

theorem isNumberChar_of_isDigit (c : Char) (h : c.isDigit = true) : isNumberChar c = true := by
  simp [isNumberChar, h]

theorem toDigits_isDigit (n : ℕ) : ∀ c ∈ Nat.toDigits 10 n, c.isDigit = true :=
  fun _ hc => Nat.isDigit_of_mem_toDigits (by decide) (by decide) hc

theorem intDigits_isDigit (n : ℤ) : ∀ c ∈ intDigits n, c.isDigit = true := toDigits_isDigit n.natAbs

theorem zeros_isDigit (n : ℤ) : ∀ c ∈ zeros n, c.isDigit = true := by
  intro c hc
  rw [List.eq_of_mem_replicate hc]
  decide

theorem expSign_isNumberChar (e : ℤ) : isNumberChar (expSign e) = true := by
  rw [expSign]
  split_ifs <;> decide

theorem significantDigits_isDigit (sci : LowerExp) :
    significantDigits sci ≠ [] ∧ ∀ c ∈ significantDigits sci, c.isDigit = true := by
  have htrim : ∀ c ∈ trimEndZeros (sci.mantissa.filter (· ≠ '.')), c.isDigit = true := by
    intro c hc
    have hmem : c ∈ sci.mantissa.filter (· ≠ '.') := by
      have h := (List.dropWhile_sublist _).mem (List.mem_reverse.mp hc)
      exact List.mem_reverse.mp h
    obtain ⟨hin, hdot⟩ := List.mem_filter.mp hmem
    rcases sci.mantissa_digits c hin with hd | hd
    · exact hd
    · simp [hd] at hdot
  rw [significantDigits]
  split
  · exact ⟨List.cons_ne_nil _ _, by simp⟩
  · next digits hne =>
    exact ⟨hne, htrim⟩

theorem roundHalfEvenCorrection_isDigit (abs : UInt64) (digits out : List Char) (e10 : ℤ)
    (h : roundHalfEvenCorrection abs digits e10 = some out) :
    out ≠ [] ∧ ∀ c ∈ out, c.isDigit = true := by
  rw [roundHalfEvenCorrection] at h
  split at h
  · cases h
  · split at h
    · cases h
    · split at h
      · cases h
      · dsimp only at h
        split at h
        · obtain rfl := Option.some.inj h
          exact ⟨Nat.toDigits_ne_nil, toDigits_isDigit _⟩
        · split at h
          · obtain rfl := Option.some.inj h
            exact ⟨Nat.toDigits_ne_nil, toDigits_isDigit _⟩
          · cases h

theorem ecmaBand_isNumberChar (digits : List Char) (n : ℤ) (hne : digits ≠ [])
    (hdigits : ∀ c ∈ digits, c.isDigit = true) :
    ecmaBand digits n ≠ [] ∧ ∀ c ∈ ecmaBand digits n, isNumberChar c = true := by
  have hd : ∀ c ∈ digits, isNumberChar c = true := fun c hc => isNumberChar_of_isDigit c (hdigits c hc)
  have hz : ∀ m, ∀ c ∈ zeros m, isNumberChar c = true :=
    fun m c hc => isNumberChar_of_isDigit c (zeros_isDigit m c hc)
  have hi : ∀ m, ∀ c ∈ intDigits m, isNumberChar c = true :=
    fun m c hc => isNumberChar_of_isDigit c (intDigits_isDigit m c hc)
  have htake : ∀ m, ∀ c ∈ digits.take m, isNumberChar c = true := fun m c hc => hd c (List.mem_of_mem_take hc)
  have hdrop : ∀ m, ∀ c ∈ digits.drop m, isNumberChar c = true := fun m c hc => hd c (List.mem_of_mem_drop hc)
  have hpoint : isNumberChar '.' = true := by decide
  have hexp : isNumberChar 'e' = true := by decide
  have hzero : isNumberChar '0' = true := by decide
  rw [ecmaBand]
  split_ifs <;> refine ⟨by simp [hne], ?_⟩ <;>
    simp only [List.forall_mem_append, List.forall_mem_cons, expSign_isNumberChar, hpoint, hexp,
      hzero, true_and]
  · exact ⟨hd, hz _⟩
  · exact ⟨htake _, hdrop _⟩
  · exact ⟨hz _, hd⟩
  · exact ⟨hd, hi _⟩
  · exact ⟨htake _, hdrop _, hi _⟩

theorem ecmaNumberString_isNumberChar (fmt : FloatFormat) (bits : UInt64) :
    ecmaNumberString fmt bits ≠ [] ∧ ∀ c ∈ ecmaNumberString fmt bits, isNumberChar c = true := by
  have hsig := significantDigits_isDigit (fmt (absBits bits))
  have hdigits : (roundHalfEvenCorrection (absBits bits) (significantDigits (fmt (absBits bits)))
        (fmt (absBits bits)).exponent).getD (significantDigits (fmt (absBits bits))) ≠ [] ∧
      ∀ c ∈ (roundHalfEvenCorrection (absBits bits) (significantDigits (fmt (absBits bits)))
        (fmt (absBits bits)).exponent).getD (significantDigits (fmt (absBits bits))), c.isDigit = true := by
    cases hround : roundHalfEvenCorrection (absBits bits) (significantDigits (fmt (absBits bits)))
        (fmt (absBits bits)).exponent with
    | none => exact hsig
    | some out => exact roundHalfEvenCorrection_isDigit _ _ _ _ hround
  have hband := ecmaBand_isNumberChar _ ((fmt (absBits bits)).exponent + 1) hdigits.1 hdigits.2
  rw [ecmaNumberString]
  split_ifs
  · refine ⟨List.cons_ne_nil _ _, ?_⟩
    rw [List.forall_mem_cons]
    exact ⟨by decide, hband.2⟩
  · exact hband

def NumberValid : Number → Prop
  | .float bits => isFinite bits = true
  | _ => True

instance : DecidablePred NumberValid
  | .posInt _ => inferInstanceAs (Decidable True)
  | .negInt _ => inferInstanceAs (Decidable True)
  | .float bits => inferInstanceAs (Decidable (isFinite bits = true))

theorem toString_isNumberChar (n : ℤ) :
    (toString n).toList ≠ [] ∧ ∀ c ∈ (toString n).toList, isNumberChar c = true := by
  rw [Int.toString_eq_repr, Int.repr_eq_if]
  split_ifs
  · rw [Nat.toList_repr]
    exact ⟨Nat.toDigits_ne_nil, fun c hc => isNumberChar_of_isDigit c (toDigits_isDigit _ c hc)⟩
  · rw [String.toList_append, Nat.toList_repr]
    refine ⟨by simp, ?_⟩
    rw [List.forall_mem_append]
    exact ⟨List.all_eq_true.mp (by decide), fun c hc => isNumberChar_of_isDigit c (toDigits_isDigit _ c hc)⟩

theorem writeNumber_isNumberChar (fmt : FloatFormat) (n : Number) (h : NumberValid n) :
    writeNumber fmt n ≠ [] ∧ ∀ c ∈ writeNumber fmt n, isNumberChar c = true := by
  cases n with
  | posInt n =>
    rw [writeNumber, show toString n.toNat = n.toNat.repr from rfl, Nat.toList_repr]
    exact ⟨Nat.toDigits_ne_nil, fun c hc => isNumberChar_of_isDigit c (toDigits_isDigit _ c hc)⟩
  | negInt n => exact toString_isNumberChar n.toInt
  | float bits =>
    have hfinite : isFinite bits = true := h
    rw [writeNumber]
    split_ifs with hzero
    · exact ⟨List.cons_ne_nil _ _, List.all_eq_true.mp (by decide)⟩
    · exact ecmaNumberString_isNumberChar fmt bits

end Acdp.Jcs
