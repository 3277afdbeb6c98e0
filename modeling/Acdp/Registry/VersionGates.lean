import Acdp.Registry.Validator
import Acdp.Types.Keyless
import Mathlib.Data.Prod.Lex

namespace Acdp.Registry

open Acdp.Types
open Acdp.Validation

/-- `version_at_least` of the validation crate: components that do not parse are dropped. -/
def versionAtLeast (v : String) (major minor : ℕ) : Bool :=
  match (Text.split '.' v).filterMap Text.parseU64 with
  | ma :: mi :: _ => major < ma || (ma == major && minor ≤ mi)
  | _ => false

section Numbers

def numberOf (part : String) : ℕ := Nat.ofDigitChars 10 part.toList 0

def versionNumbers (v : String) : List ℕ := (Text.split '.' v).map numberOf

def majorMinor (v : String) : ℕ ×ₗ ℕ := toLex ((versionNumbers v)[0]?.getD 0, (versionNumbers v)[1]?.getD 0)

def IsNumber (part : String) : Prop := part ≠ "" ∧ part.toList.all Text.isAsciiDigit = true

theorem isDottedTriple_iff (v : String) :
    isDottedTriple v = true ↔
      ∃ a b c, Text.split '.' v = [a, b, c] ∧ IsNumber a ∧ IsNumber b ∧ IsNumber c := by
  rw [isDottedTriple, Bool.and_eq_true, beq_iff_eq, List.length_eq_three, List.all_eq_true]
  simp only [Bool.and_eq_true, decide_eq_true_eq]
  constructor
  · rintro ⟨⟨a, b, c, hsplit⟩, hall⟩
    rw [hsplit] at hall
    exact ⟨a, b, c, hsplit, hall a (by simp), hall b (by simp), hall c (by simp)⟩
  · rintro ⟨a, b, c, hsplit, ha, hb, hc⟩
    refine ⟨⟨a, b, c, hsplit⟩, fun part hpart => ?_⟩
    rw [hsplit] at hpart
    simp only [List.mem_cons, List.not_mem_nil, or_false] at hpart
    rcases hpart with rfl | rfl | rfl
    · exact ha
    · exact hb
    · exact hc

theorem isDigit_of_isAsciiDigit (c : Char) (h : Text.isAsciiDigit c = true) : c.isDigit = true := by
  rw [Text.isAsciiDigit, decide_eq_true_eq] at h
  rw [Char.isDigit, Bool.and_eq_true, decide_eq_true_eq, decide_eq_true_eq]
  exact h

theorem parseU64_of_isNumber (part : String) (h : IsNumber part) :
    Text.parseU64 part = if numberOf part < 2 ^ 64 then some (numberOf part) else none := by
  obtain ⟨hne, hdigits⟩ := h
  have hlist : part.toList ≠ [] := fun hnil => hne (String.toList_eq_nil_iff.mp hnil)
  have hall : part.toList.all Char.isDigit = true := by
    rw [List.all_eq_true] at hdigits ⊢
    exact fun c hc => isDigit_of_isAsciiDigit c (hdigits c hc)
  have hparse : Text.parseDigits part.toList = some (numberOf part) := by
    rw [Text.parseDigits, if_pos ⟨hlist, hall⟩]
    rfl
  have hplus : Text.parseU64 part = (Text.parseDigits part.toList).filter (fun n => decide (n < 2 ^ 64)) := by
    unfold Text.parseU64
    split
    next cs heq =>
      rw [heq, List.all_cons] at hdigits
      exact absurd (Bool.and_eq_true_iff.mp hdigits).1 (by decide)
    next => rfl
  rw [hplus, hparse, Option.filter_some]
  simp only [decide_eq_true_eq]

end Numbers

/-- The gates of both sides read `v` alike, and as its numbers are ordered. -/
structure GatesAgree (v : String) : Prop where
  revocation : versionAtLeast v 0 3 = keyRevocationGateApplies v
  retirement : atLeast05 v = keyRevocationRetirementGateApplies v
  advertised : keyRevocationRetirementGateApplies v = advertises050OrHigher v
  revocationExact : keyRevocationGateApplies v = true ↔ toLex (0, 3) ≤ majorMinor v
  retirementExact : keyRevocationRetirementGateApplies v = true ↔ toLex (0, 5) ≤ majorMinor v

section Gates

variable (v : String) (h : isDottedTriple v = true)
include h

theorem atLeastMinor_iff (minor : ℕ) (hminor : minor < 2 ^ 64) :
    atLeastMinor minor v = true ↔ toLex (0, minor) ≤ majorMinor v := by
  obtain ⟨a, b, c, hsplit, ha, hb, -⟩ := (isDottedTriple_iff v).mp h
  rw [atLeastMinor, parseMajorMinorSaturating, majorMinor, versionNumbers, hsplit, Prod.Lex.toLex_le_toLex]
  simp only [List.map_cons, List.getElem?_cons_zero, List.getElem?_cons_succ, Option.getD_some,
    parseU64_of_isNumber a ha, parseU64_of_isNumber b hb, Bool.or_eq_true, decide_eq_true_eq]
  split_ifs <;> simp only [Option.getD_some, Option.getD_none] <;> omega

theorem server_gates_exact :
    keyRevocationRetirementGateApplies v = advertises050OrHigher v ∧
      (keyRevocationGateApplies v = true ↔ toLex (0, 3) ≤ majorMinor v) ∧
      (keyRevocationRetirementGateApplies v = true ↔ toLex (0, 5) ≤ majorMinor v) := by
  rw [keyRevocationRetirementGateApplies, advertises050OrHigher, keyRevocationGateApplies,
    isWellFormedVersion, h]
  exact ⟨rfl, atLeastMinor_iff v h 3 (by decide), atLeastMinor_iff v h 5 (by decide)⟩

theorem versionAtLeast_iff (hfit : ∀ n ∈ (versionNumbers v).take 2, n < 2 ^ 64) (major minor : ℕ) :
    versionAtLeast v major minor = true ↔ toLex (major, minor) ≤ majorMinor v := by
  obtain ⟨a, b, c, hsplit, ha, hb, -⟩ := (isDottedTriple_iff v).mp h
  rw [versionNumbers, hsplit] at hfit
  simp only [List.map_cons, List.take_succ_cons, List.take_zero, List.forall_mem_cons] at hfit
  rw [versionAtLeast, majorMinor, versionNumbers, hsplit, Prod.Lex.toLex_le_toLex]
  simp only [List.filterMap_cons, parseU64_of_isNumber a ha, parseU64_of_isNumber b hb, if_pos hfit.1,
    if_pos hfit.2.1, List.map_cons, List.getElem?_cons_zero, List.getElem?_cons_succ, Option.getD_some,
    Bool.or_eq_true,
    Bool.and_eq_true, beq_iff_eq, decide_eq_true_eq]
  omega

theorem atLeast05_iff :
    atLeast05 v = true ↔ (∀ n ∈ versionNumbers v, n < 2 ^ 64) ∧ toLex (0, 5) ≤ majorMinor v := by
  obtain ⟨a, b, c, hsplit, ha, hb, hc⟩ := (isDottedTriple_iff v).mp h
  rw [atLeast05, majorMinor, versionNumbers, hsplit, Prod.Lex.toLex_le_toLex]
  simp only [List.filterMap_cons, List.filterMap_nil, parseU64_of_isNumber a ha, parseU64_of_isNumber b hb,
    parseU64_of_isNumber c hc, List.map_cons, List.map_nil, List.forall_mem_cons, List.getElem?_cons_zero,
    List.getElem?_cons_succ, Option.getD_some]
  by_cases hfit : numberOf a < 2 ^ 64 ∧ numberOf b < 2 ^ 64 ∧ numberOf c < 2 ^ 64
  · obtain ⟨hfa, hfb, hfc⟩ := hfit
    simp only [if_pos hfa, if_pos hfb, if_pos hfc, Bool.or_eq_true, decide_eq_true_eq]
    refine ⟨fun hle => ⟨⟨hfa, hfb, hfc, nofun⟩, by omega⟩, ?_⟩
    rintro ⟨-, hle⟩
    omega
  · refine ⟨fun htrue => absurd htrue ?_, fun hboth => absurd ⟨hboth.1.1, hboth.1.2.1, hboth.1.2.2.1⟩ hfit⟩
    -- a dropped component leaves fewer than three
    split_ifs with hfa hfb hfc <;> first | (simp; done) | exact absurd ⟨hfa, hfb, hfc⟩ hfit

theorem gatesAgree_iff :
    GatesAgree v ↔ (∀ n ∈ versionNumbers v, n < 2 ^ 64) ∨ majorMinor v < toLex (0, 5) := by
  obtain ⟨hadvertised, h03, h05⟩ := server_gates_exact v h
  have hexact := atLeast05_iff v h
  constructor
  · intro hagree
    rw [or_iff_not_imp_right, not_lt]
    intro hle
    exact (hexact.mp (hagree.retirement.trans (h05.mpr hle))).1
  · intro hcase
    have hfit : ∀ n ∈ (versionNumbers v).take 2, n < 2 ^ 64 := by
      rcases hcase with hall | hlt
      · exact fun n hn => hall n (List.mem_of_mem_take hn)
      · obtain ⟨a, b, c, hsplit, -⟩ := (isDottedTriple_iff v).mp h
        rw [majorMinor, versionNumbers, hsplit, Prod.Lex.toLex_lt_toLex] at hlt
        rw [versionNumbers, hsplit]
        simp only [List.map_cons, List.getElem?_cons_zero, List.getElem?_cons_succ, Option.getD_some] at hlt
        simp only [List.map_cons, List.take_succ_cons, List.take_zero, List.forall_mem_cons]
        refine ⟨by omega, by omega, fun n hn => nomatch hn⟩
    refine ⟨?_, ?_, hadvertised, h03, h05⟩
    · rw [Bool.eq_iff_iff, versionAtLeast_iff v h hfit, h03]
    · rw [Bool.eq_iff_iff, hexact, h05]
      refine ⟨fun hboth => hboth.2, fun hle => ⟨?_, hle⟩⟩
      exact hcase.resolve_right (not_lt.mpr hle)

end Gates

theorem isDottedTriple_of_validate (name v : String) (h : validateSemverPattern name v = .ok ()) :
    isDottedTriple v = true := by
  unfold validateSemverPattern at h
  split at h
  · cases h
  · exact not_not.mp ‹_›

/-- The gates agree until a component is too long for a `u64`, and then below `0.5.0` only. -/
theorem version_gates_agree_iff (name v : String) (h : validateSemverPattern name v = .ok ()) :
    GatesAgree v ↔ (∀ n ∈ versionNumbers v, n < 2 ^ 64) ∨ majorMinor v < toLex (0, 5) :=
  gatesAgree_iff v (isDottedTriple_of_validate name v h)

theorem version_gates_agree_current : GatesAgree "0.5.1" :=
  (version_gates_agree_iff "acdp_version" "0.5.1" (by decide +kernel)).mpr (.inl (by decide +kernel))

def longMajor : String := "99999999999999999999.0.0"

theorem long_major_divides :
    validateSemverPattern "acdp_version" longMajor = .ok () ∧ toLex (0, 5) ≤ majorMinor longMajor ∧
      versionAtLeast longMajor 0 3 = false ∧ keyRevocationGateApplies longMajor = true ∧
      atLeast05 longMajor = false ∧ keyRevocationRetirementGateApplies longMajor = true ∧
      ¬ GatesAgree longMajor := by
  have hclient : versionAtLeast longMajor 0 3 = false := by decide +kernel
  have hserver : keyRevocationGateApplies longMajor = true := by decide +kernel
  refine ⟨by decide +kernel, by decide +kernel, hclient, hserver, by decide +kernel, by decide +kernel, ?_⟩
  intro hagree
  have hsame := hagree.revocation
  rw [hclient, hserver] at hsame
  cases hsame

end Acdp.Registry
