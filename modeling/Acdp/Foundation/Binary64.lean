import Mathlib.Algebra.Order.Field.Power
import Mathlib.Data.Int.Log
import Mathlib.Data.Rat.Floor
import Mathlib.Order.Monotone.Basic
import Mathlib.Tactic.FieldSimp
import Mathlib.Tactic.Linarith
import Mathlib.Tactic.LinearCombination
import Mathlib.Tactic.NormNum
import Mathlib.Tactic.Positivity
import Mathlib.Tactic.Ring

namespace Acdp.Foundation.Binary64

def fraction (bits : ℕ) : ℕ := bits % 2 ^ 52

def biased (bits : ℕ) : ℕ := bits / 2 ^ 52

def significand (bits : ℕ) : ℕ := if biased bits = 0 then fraction bits else fraction bits + 2 ^ 52

def exponent (bits : ℕ) : ℤ := if biased bits = 0 then -1074 else biased bits - 1075

def ulp (bits : ℕ) : ℚ := 2 ^ exponent bits

def value (bits : ℕ) : ℚ := significand bits * ulp bits

def lower (bits : ℕ) : ℚ := (value (bits - 1) + value bits) / 2

def upper (bits : ℕ) : ℚ := (value bits + value (bits + 1)) / 2

/-- A number is read as the float: it lies in the rounding interval, whose ends belong to the even
significand. -/
def Reads (bits : ℕ) (x : ℚ) : Prop :=
  (lower bits < x ∨ lower bits = x ∧ bits % 2 = 0) ∧ (x < upper bits ∨ x = upper bits ∧ bits % 2 = 0)

theorem ulp_pos (bits : ℕ) : 0 < ulp bits := zpow_pos two_pos _

theorem significand_lt (bits : ℕ) : significand bits < 2 ^ 53 := by
  have hfraction : fraction bits < 2 ^ 52 := Nat.mod_lt _ (by decide)
  rw [significand]
  split <;> omega

theorem significand_pos (bits : ℕ) (h : 0 < bits) : 0 < significand bits := by
  rw [significand, biased, fraction]
  split <;> omega

theorem value_pos (bits : ℕ) (h : 0 < bits) : 0 < value bits :=
  mul_pos (Nat.cast_pos.mpr (significand_pos bits h)) (ulp_pos bits)

theorem succ_cases (bits : ℕ) :
    significand (bits + 1) = significand bits + 1 ∧ exponent (bits + 1) = exponent bits ∨
      significand bits + 1 = 2 ^ 53 ∧ significand (bits + 1) = 2 ^ 52 ∧
        exponent (bits + 1) = exponent bits + 1 := by
  simp only [significand, exponent]
  by_cases h : biased bits = 0
  · by_cases h' : biased (bits + 1) = 0
    · rw [if_pos h, if_pos h, if_pos h', if_pos h']
      simp only [biased, fraction] at *
      exact .inl ⟨by omega, trivial⟩
    · rw [if_pos h, if_pos h, if_neg h', if_neg h']
      simp only [biased, fraction] at *
      omega
  · have h' : biased (bits + 1) ≠ 0 := by
      simp only [biased] at *
      omega
    rw [if_neg h, if_neg h, if_neg h', if_neg h']
    simp only [biased, fraction] at *
    omega

theorem value_succ (bits : ℕ) : value (bits + 1) = value bits + ulp bits := by
  rcases succ_cases bits with ⟨hsig, hexp⟩ | ⟨hfull, hsig, hexp⟩
  · rw [value, value, ulp, ulp, hsig, hexp]
    push_cast
    ring
  · have hcast : (significand bits : ℚ) + 1 = 2 ^ 53 := by exact_mod_cast hfull
    have hulp : (2 : ℚ) ^ (exponent bits + 1) = 2 ^ exponent bits * 2 := zpow_add_one₀ two_ne_zero _
    rw [value, value, ulp, ulp, hsig, hexp, hulp]
    push_cast
    linear_combination -(2 : ℚ) ^ exponent bits * hcast

theorem value_strictMono : StrictMono value := by
  refine strictMono_nat_of_lt_succ (fun bits => ?_)
  rw [value_succ]
  exact lt_add_of_pos_right _ (ulp_pos bits)

theorem upper_eq (bits : ℕ) : upper bits = value bits + ulp bits / 2 := by
  rw [upper, value_succ]
  ring

theorem lower_eq (bits : ℕ) (h : 0 < bits) : lower bits = value bits - ulp (bits - 1) / 2 := by
  have hsucc := value_succ (bits - 1)
  rw [Nat.sub_add_cancel h] at hsucc
  rw [lower, hsucc]
  ring

theorem ulp_pred (bits : ℕ) (h : 0 < bits) :
    ulp (bits - 1) = ulp bits ∨ significand bits = 2 ^ 52 ∧ bits % 2 = 0 ∧ ulp (bits - 1) = ulp bits / 2 := by
  have hcases := succ_cases (bits - 1)
  rw [Nat.sub_add_cancel h] at hcases
  rcases hcases with ⟨-, hexp⟩ | ⟨hfull, hsig, hexp⟩
  · left
    rw [ulp, ulp, hexp]
  · right
    refine ⟨hsig, ?_, ?_⟩
    · rw [significand, fraction, biased] at hsig
      split at hsig <;> omega
    · rw [ulp, ulp, hexp, zpow_add_one₀ two_ne_zero]
      ring

theorem reads_unique (a b : ℕ) (hb : 0 < b) (hab : a < b) (x : ℚ) (ha : Reads a x) : ¬ Reads b x := by
  intro hread
  have hle : upper a ≤ lower b := by
    have h₁ : value a ≤ value (b - 1) := value_strictMono.monotone (Nat.le_sub_one_of_lt hab)
    have h₂ : value (a + 1) ≤ value b := value_strictMono.monotone hab
    rw [upper, lower]
    linarith
  have hxa : x ≤ upper a := ha.2.elim le_of_lt (fun h => h.1.le)
  have hxb : lower b ≤ x := hread.1.elim le_of_lt (fun h => h.1.le)
  have hupper : x = upper a := le_antisymm hxa (hle.trans hxb)
  have hlower : lower b = x := le_antisymm hxb (hxa.trans hle)
  have heven : a % 2 = 0 := by
    rcases ha.2 with hlt | ⟨-, heven⟩
    · exact absurd hupper hlt.ne
    · exact heven
  have heven' : b % 2 = 0 := by
    rcases hread.1 with hlt | ⟨-, heven'⟩
    · exact absurd hlower hlt.ne
    · exact heven'
  have hadjacent : a = b - 1 := by
    by_contra hne
    have hlt : a < b - 1 := lt_of_le_of_ne (Nat.le_sub_one_of_lt hab) hne
    have h₁ : value a < value (b - 1) := value_strictMono hlt
    have h₂ : value (a + 1) ≤ value b := value_strictMono.monotone hab
    have heq : upper a = lower b := hupper.symm.trans hlower.symm
    rw [upper, lower] at heq
    linarith
  omega

theorem reads_of_close (bits : ℕ) (h : 0 < bits) (x : ℚ) (hx : |x - value bits| < ulp (bits - 1) / 2) :
    Reads bits x := by
  have hle : ulp (bits - 1) ≤ ulp bits := by
    rcases ulp_pred bits h with heq | ⟨-, -, hhalf⟩
    · exact heq.le
    · rw [hhalf]
      exact half_le_self (ulp_pos bits).le
  rw [abs_lt] at hx
  refine ⟨.inl ?_, .inl ?_⟩
  · rw [lower_eq bits h]
    linarith
  · rw [upper_eq]
    linarith

theorem reads_mirror_above (bits : ℕ) (h : 0 < bits) (d : ℚ) (hd : 0 ≤ d)
    (hread : Reads bits (value bits - d)) : Reads bits (value bits + d) := by
  have hpos := ulp_pos bits
  have hle : ulp (bits - 1) ≤ ulp bits := by
    rcases ulp_pred bits h with heq | ⟨-, -, hhalf⟩
    · exact heq.le
    · rw [hhalf]
      exact half_le_self hpos.le
  have hlow := hread.1
  rw [lower_eq bits h] at hlow
  rw [Reads, lower_eq bits h, upper_eq]
  have hpred := ulp_pos (bits - 1)
  refine ⟨.inl (by linarith), ?_⟩
  rcases hlow with hlt | ⟨heq, heven⟩
  · exact .inl (by linarith)
  · rcases lt_or_eq_of_le hle with hstrict | hsame
    · exact .inl (by linarith)
    · exact .inr ⟨by linarith, heven⟩

theorem reads_mirror_below (bits : ℕ) (h : 0 < bits) (d : ℚ) (hd : 0 ≤ d)
    (hread : Reads bits (value bits + d)) (hsmall : ulp (bits - 1) = ulp bits ∨ bits % 2 = 0 ∧
      d ≤ ulp (bits - 1) / 2) :
    Reads bits (value bits - d) := by
  have hpos := ulp_pos bits
  have hpred := ulp_pos (bits - 1)
  have hhigh := hread.2
  rw [upper_eq] at hhigh
  rw [Reads, lower_eq bits h, upper_eq]
  refine ⟨?_, .inl (by linarith)⟩
  rcases hsmall with hsame | ⟨heven, hle⟩
  · rcases hhigh with hlt | ⟨heq, heven⟩
    · exact .inl (by linarith)
    · exact .inr ⟨by linarith, heven⟩
  · rcases lt_or_eq_of_le hle with hlt | heq
    · exact .inl (by linarith)
    · exact .inr ⟨by linarith, heven⟩

end Acdp.Foundation.Binary64
