import Acdp.Crypto.Merkle
import Acdp.Foundation.AuditPath
import Mathlib.Tactic.Ring

namespace Acdp.Crypto.Merkle

open Acdp.Foundation.AuditPath

variable {δ : Type}

theorem shiftEven_odd (fnode snode : ℕ) (h : fnode % 2 = 1) : shiftEven fnode snode = (fnode, snode) := by
  rw [shiftEven, if_neg (by omega)]

theorem shiftEven_even (fnode snode : ℕ) (h : fnode % 2 = 0) (h0 : fnode ≠ 0) :
    shiftEven fnode snode = shiftEven (fnode / 2) (snode / 2) := by
  rw [shiftEven, if_pos ⟨h, h0⟩, Nat.shiftRight_one, Nat.shiftRight_one]

theorem shiftEven_snd_le (fnode snode : ℕ) : (shiftEven fnode snode).2 ≤ snode := by
  fun_induction shiftEven fnode snode with
  | case1 fnode snode h ih => exact ih.trans (by rw [Nat.shiftRight_one]; omega)
  | case2 fnode snode h => exact le_refl _

theorem afterLeft_snd_lt (fnode snode : ℕ) (h : snode ≠ 0) : (afterLeft fnode snode).2 < snode := by
  have hs := shiftEven_snd_le fnode snode
  simp only [afterLeft, Nat.shiftRight_one]
  split_ifs <;> omega

theorem afterLeft_odd (fnode snode : ℕ) (h : fnode % 2 = 1) :
    afterLeft fnode snode = (fnode / 2, snode / 2) := by
  simp [afterLeft, h, Nat.shiftRight_one]

theorem afterLeft_even (fnode snode : ℕ) (h : fnode % 2 = 0) (h0 : fnode ≠ 0) :
    afterLeft fnode snode = afterLeft (fnode / 2) (snode / 2) := by
  by_cases hd : fnode / 2 % 2 = 0
  · simp only [afterLeft, h, hd, ↓reduceIte, shiftEven_even fnode snode h h0]
  · have hd1 : fnode / 2 % 2 = 1 := by omega
    simp only [afterLeft, h, hd, ↓reduceIte, shiftEven_even fnode snode h h0, shiftEven_odd _ _ hd1]

def walkSides (fnode snode : ℕ) : List Side :=
  if h : snode = 0 then []
  else if fnode % 2 = 1 ∨ fnode = snode then
    .left :: walkSides (afterLeft fnode snode).1 (afterLeft fnode snode).2
  else .right :: walkSides (fnode / 2) (snode / 2)
termination_by snode
decreasing_by
  · exact afterLeft_snd_lt fnode snode h
  · omega

theorem walkSides_zero (fnode : ℕ) : walkSides fnode 0 = [] := by
  rw [walkSides, dif_pos rfl]

theorem walkSides_odd (fnode snode : ℕ) (hs : snode ≠ 0) (h : fnode % 2 = 1) :
    walkSides fnode snode = .left :: walkSides (fnode / 2) (snode / 2) := by
  rw [walkSides, dif_neg hs, if_pos (Or.inl h), afterLeft_odd fnode snode h]

theorem walkSides_even (fnode snode : ℕ) (h : fnode % 2 = 0) (hne : fnode ≠ snode) (hs : snode ≠ 0) :
    walkSides fnode snode = .right :: walkSides (fnode / 2) (snode / 2) := by
  rw [walkSides, dif_neg hs, if_neg (by omega)]

theorem walkSides_edge (a : ℕ) (h : a % 2 = 0) (h0 : a ≠ 0) :
    walkSides a a = walkSides (a / 2) (a / 2) := by
  have h2 : a / 2 ≠ 0 := by omega
  rw [walkSides, dif_neg h0, if_pos (Or.inr rfl), afterLeft_even a a h h0]
  conv_rhs => rw [walkSides, dif_neg h2, if_pos (Or.inr rfl)]

theorem walkSides_full_left (h a s : ℕ) (ha : a < 2 ^ h) (hs : 2 ^ h ≤ s) (hs' : s < 2 ^ (h + 1)) :
    walkSides a s = walkSides a (2 ^ h - 1) ++ [.right] := by
  induction h generalizing a s with
  | zero =>
    obtain rfl : a = 0 := by simpa using ha
    obtain rfl : s = 1 := by simp at hs hs'; omega
    rw [walkSides_even 0 1 rfl (by omega) (by omega)]
    simp [walkSides_zero]
  | succ h ih =>
    have hp : 2 ^ (h + 1) = 2 * 2 ^ h := by ring
    have hp' : 2 ^ (h + 1 + 1) = 2 * 2 ^ (h + 1) := by ring
    have hpos : 0 < 2 ^ h := Nat.two_pow_pos h
    have hhalf : (2 ^ (h + 1) - 1) / 2 = 2 ^ h - 1 := by omega
    have step := ih (a / 2) (s / 2) (by omega) (by omega) (by omega)
    by_cases hodd : a % 2 = 1
    · rw [walkSides_odd a s (by omega) hodd, walkSides_odd a _ (by omega) hodd, hhalf, step]
      rfl
    · rw [walkSides_even a s (by omega) (by omega) (by omega),
        walkSides_even a _ (by omega) (by omega) (by omega), hhalf, step]
      rfl

theorem walkSides_right (h a b : ℕ) (hab : a ≤ b) (hb : b < 2 ^ h) :
    walkSides (a + 2 ^ h) (b + 2 ^ h) = walkSides a b ++ [.left] := by
  induction h generalizing a b with
  | zero =>
    obtain rfl : b = 0 := by simpa using hb
    obtain rfl : a = 0 := by omega
    rw [walkSides_odd _ _ (by simp) (by simp)]
    simp [walkSides_zero]
  | succ h ih =>
    have hp : 2 ^ (h + 1) = 2 * 2 ^ h := by ring
    have hpos : 0 < 2 ^ h := Nat.two_pow_pos h
    have ha2 : (a + 2 ^ (h + 1)) / 2 = a / 2 + 2 ^ h := by omega
    have hb2 : (b + 2 ^ (h + 1)) / 2 = b / 2 + 2 ^ h := by omega
    have step := ih (a / 2) (b / 2) (by omega) (by omega)
    by_cases hodd : a % 2 = 1
    · rw [walkSides_odd _ _ (by omega) (by omega), walkSides_odd a b (by omega) hodd, ha2, hb2, step]
      rfl
    by_cases heq : a = b
    · subst heq
      rw [walkSides_edge _ (by omega) (by omega), ha2, step]
      by_cases hz : a = 0
      · simp [hz]
      · rw [walkSides_edge a (by omega) hz]
    · rw [walkSides_even _ _ (by omega) (by omega) (by omega),
        walkSides_even a b (by omega) heq (by omega), ha2, hb2, step]
      rfl

theorem foldInclusion_eq_climb (H : Hasher δ) (fnode snode : ℕ) (r t : δ) (path : List δ) :
    foldInclusion H fnode snode r path = some (0, t) ↔
      climb H.node r (walkSides fnode snode) path = some t := by
  induction path generalizing fnode snode r with
  | nil =>
    by_cases hs : snode = 0
    · simp [foldInclusion, hs, walkSides_zero, climb]
    · rw [walkSides, dif_neg hs]
      split_ifs <;> simp [foldInclusion, hs, climb]
  | cons p path ih =>
    by_cases hs : snode = 0
    · simp [foldInclusion, hs, walkSides_zero, climb]
    · rw [foldInclusion, walkSides, if_neg hs, dif_neg hs]
      split_ifs with hc
      · exact ih _ _ _
      · simp only [Nat.shiftRight_one]
        exact ih _ _ _

theorem foldConsistency_eq_climb (H : Hasher δ) (fnode snode : ℕ) (fr sr ft st : δ) (path : List δ) :
    foldConsistency H fnode snode fr sr path = some (0, ft, st) ↔
      climbLeft H.node fr (walkSides fnode snode) path = some ft ∧
        climb H.node sr (walkSides fnode snode) path = some st := by
  induction path generalizing fnode snode fr sr with
  | nil =>
    by_cases hs : snode = 0
    · simp [foldConsistency, hs, walkSides_zero, climb, climbLeft]
    · rw [walkSides, dif_neg hs]
      split_ifs <;> simp [foldConsistency, hs, climb, climbLeft]
  | cons p path ih =>
    by_cases hs : snode = 0
    · simp [foldConsistency, hs, walkSides_zero, climb, climbLeft]
    · rw [foldConsistency, walkSides, if_neg hs, dif_neg hs]
      split_ifs with hc
      · exact ih _ _ _ _
      · simp only [Nat.shiftRight_one]
        exact ih _ _ _ _

end Acdp.Crypto.Merkle
