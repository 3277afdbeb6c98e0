import Acdp.Crypto.MerkleInclusion

namespace Acdp.Crypto.Merkle

open Acdp.Foundation.AuditPath

variable {δ : Type}

def oddSides (fnode snode : ℕ) : List Side :=
  walkSides (shiftOdd fnode snode).1 (shiftOdd fnode snode).2

theorem oddSides_even (a s : ℕ) (h : a % 2 = 0) : oddSides a s = walkSides a s := by
  rw [oddSides, shiftOdd, if_neg (by omega)]

theorem oddSides_odd (a s : ℕ) (h : a % 2 = 1) : oddSides a s = oddSides (a / 2) (s / 2) := by
  rw [oddSides, shiftOdd, if_pos h, Nat.shiftRight_one, Nat.shiftRight_one, oddSides]

theorem oddSides_full (h s : ℕ) (hs : 2 ^ h ≤ s) (hs' : s < 2 ^ (h + 1)) :
    oddSides (2 ^ h - 1) s = [.right] := by
  induction h generalizing s with
  | zero =>
    obtain rfl : s = 1 := by simp at hs hs'; omega
    rw [oddSides_even _ _ rfl, walkSides_even _ _ rfl (by simp) (by omega), walkSides_zero]
  | succ h ih =>
    have hp : 2 ^ (h + 1) = 2 * 2 ^ h := by ring
    have hp' : 2 ^ (h + 1 + 1) = 2 * 2 ^ (h + 1) := by ring
    have hpos : 0 < 2 ^ h := Nat.two_pow_pos h
    rw [oddSides_odd _ _ (by omega), show (2 ^ (h + 1) - 1) / 2 = 2 ^ h - 1 by omega]
    exact ih (s / 2) (by omega) (by omega)

theorem oddSides_left (h a s : ℕ) (ha : a + 1 < 2 ^ h) (hs : 2 ^ h ≤ s) (hs' : s < 2 ^ (h + 1)) :
    oddSides a s = oddSides a (2 ^ h - 1) ++ [.right] := by
  induction h generalizing a s with
  | zero => simp at ha
  | succ h ih =>
    have hp : 2 ^ (h + 1) = 2 * 2 ^ h := by ring
    have hp' : 2 ^ (h + 1 + 1) = 2 * 2 ^ (h + 1) := by ring
    by_cases hodd : a % 2 = 1
    · rw [oddSides_odd a s hodd, oddSides_odd a _ hodd, show (2 ^ (h + 1) - 1) / 2 = 2 ^ h - 1 by omega]
      exact ih (a / 2) (s / 2) (by omega) (by omega) (by omega)
    · rw [oddSides_even a s (by omega), oddSides_even a _ (by omega)]
      exact walkSides_full_left (h + 1) a s (by omega) hs hs'

theorem oddSides_right (h a b : ℕ) (hab : a < b) (hb : b < 2 ^ h) :
    oddSides (a + 2 ^ h) (b + 2 ^ h) = oddSides a b ++ [.left] := by
  induction h generalizing a b with
  | zero => simp at hb; omega
  | succ h ih =>
    have hp : 2 ^ (h + 1) = 2 * 2 ^ h := by ring
    by_cases hodd : a % 2 = 1
    · rw [oddSides_odd _ _ (by omega), oddSides_odd a b hodd,
        show (a + 2 ^ (h + 1)) / 2 = a / 2 + 2 ^ h by omega,
        show (b + 2 ^ (h + 1)) / 2 = b / 2 + 2 ^ h by omega]
      exact ih (a / 2) (b / 2) (by omega) (by omega)
    · rw [oddSides_even _ _ (by omega), oddSides_even a b (by omega)]
      exact walkSides_right (h + 1) a b hab.le hb

theorem subproof_whole (H : Hasher δ) (D : List δ) (b : Bool) :
    subproof H D.length D b = if b then [] else [merkleTreeHash H D] := by
  rw [subproof]
  simp only [↓reduceIte]

theorem subproof_left (H : Hasher δ) (m : ℕ) (D : List δ) (b : Bool) (hm : m < D.length)
    (hD : 2 ≤ D.length) (hk : m ≤ largestPow2Lt D.length) :
    subproof H m D b = subproof H m (D.take (largestPow2Lt D.length)) b ++
      [merkleTreeHash H (D.drop (largestPow2Lt D.length))] := by
  rw [subproof]
  simp only [show ¬ m = D.length by omega, show ¬ D.length < 2 by omega, hk, ↓reduceIte]

theorem subproof_right (H : Hasher δ) (m : ℕ) (D : List δ) (b : Bool) (hm : m < D.length)
    (hD : 2 ≤ D.length) (hk : largestPow2Lt D.length < m) :
    subproof H m D b = subproof H (m - largestPow2Lt D.length) (D.drop (largestPow2Lt D.length)) false ++
      [merkleTreeHash H (D.take (largestPow2Lt D.length))] := by
  rw [subproof]
  simp only [show ¬ m = D.length by omega, show ¬ D.length < 2 by omega,
    show ¬ m ≤ largestPow2Lt D.length by omega, ↓reduceIte]

theorem merkleTreeHash_take_split (H : Hasher δ) (D : List δ) (m h : ℕ) (hm : m ≤ D.length)
    (hlt : 2 ^ h < m) (hle : m ≤ 2 ^ (h + 1)) :
    merkleTreeHash H (D.take m) = H.node (merkleTreeHash H (D.take (2 ^ h)))
      (merkleTreeHash H ((D.drop (2 ^ h)).take (m - 2 ^ h))) := by
  have hpos : 0 < 2 ^ h := Nat.two_pow_pos h
  have hlen : (D.take m).length = m := by simp only [List.length_take]; omega
  rw [merkleTreeHash_split H (D.take m) (by omega), hlen, largestPow2Lt_unique m h hlt hle,
    List.take_take, List.drop_take, Nat.min_eq_left hlt.le]

theorem subproof_climb (H : Hasher δ) (D : List δ) (m : ℕ) (h0 : 0 < m) (hm : m < D.length) :
    ∃ seed cs, subproof H m D false = seed :: cs ∧
      climbLeft H.node seed (oddSides (m - 1) (D.length - 1)) cs = some (merkleTreeHash H (D.take m)) ∧
      climb H.node seed (oddSides (m - 1) (D.length - 1)) cs = some (merkleTreeHash H D) := by
  induction hn : D.length using Nat.strong_induction_on generalizing D m with
  | _ n ih =>
    subst hn
    have hD : 2 ≤ D.length := by omega
    obtain ⟨h, hk, hlt, hle⟩ := largestPow2Lt_spec D.length hD
    have hpos : 0 < 2 ^ h := Nat.two_pow_pos h
    have htake : (D.take (2 ^ h)).length = 2 ^ h := by simp only [List.length_take]; omega
    have hdrop : (D.drop (2 ^ h)).length = D.length - 2 ^ h := List.length_drop
    rw [merkleTreeHash_split H D hD, hk]
    rcases Nat.lt_trichotomy m (2 ^ h) with hml | rfl | hml
    · obtain ⟨seed, cs, hs, hl, hc⟩ := ih _ (by omega) (D.take (2 ^ h)) m h0 (by omega) rfl
      rw [htake] at hl hc
      rw [List.take_take, Nat.min_eq_left hml.le] at hl
      have ho := oddSides_left h (m - 1) (D.length - 1) (by omega) (by omega) (by omega)
      refine ⟨seed, cs ++ [merkleTreeHash H (D.drop (2 ^ h))], ?_, ?_, ?_⟩
      · rw [subproof_left H m D false hm hD (by omega), hk, hs, List.cons_append]
      · rw [ho]
        exact climbLeft_snoc_right H.node seed _ _ _ cs hl
      · rw [ho]
        exact climb_snoc H.node seed _ _ _ cs .right hc
    · have ho := oddSides_full h (D.length - 1) (by omega) (by omega)
      have hw := subproof_whole H (D.take (2 ^ h)) false
      rw [htake] at hw
      refine ⟨merkleTreeHash H (D.take (2 ^ h)), [merkleTreeHash H (D.drop (2 ^ h))], ?_, ?_, ?_⟩
      · rw [subproof_left H (2 ^ h) D false hm hD (by omega), hk, hw]
        rfl
      · rw [ho]
        rfl
      · rw [ho]
        rfl
    · obtain ⟨seed, cs, hs, hl, hc⟩ := ih _ (by omega) (D.drop (2 ^ h)) (m - 2 ^ h) (by omega) (by omega) rfl
      rw [hdrop] at hl hc
      have ho := oddSides_right h (m - 2 ^ h - 1) (D.length - 2 ^ h - 1) (by omega)
        (by rw [Nat.pow_succ] at hle; omega)
      rw [show m - 2 ^ h - 1 + 2 ^ h = m - 1 by omega,
        show D.length - 2 ^ h - 1 + 2 ^ h = D.length - 1 by omega] at ho
      refine ⟨seed, cs ++ [merkleTreeHash H (D.take (2 ^ h))], ?_, ?_, ?_⟩
      · rw [subproof_right H m D false hm hD (by omega), hk, hs, List.cons_append]
      · rw [ho, merkleTreeHash_take_split H D m h hm.le hml (by omega)]
        exact climbLeft_snoc_left H.node seed _ _ _ cs hl
      · rw [ho]
        exact climb_snoc H.node seed _ _ _ cs .left hc

theorem not_isPowerOfTwo_between (m h : ℕ) (hlt : 2 ^ h < m) (hlt' : m < 2 ^ (h + 1)) :
    ¬ m.isPowerOfTwo := by
  rintro ⟨j, rfl⟩
  have h1 : h < j := (Nat.pow_lt_pow_iff_right (by omega)).mp hlt
  have h2 : j < h + 1 := (Nat.pow_lt_pow_iff_right (by omega)).mp hlt'
  omega

theorem subproof_true (H : Hasher δ) (D : List δ) (m : ℕ) (h0 : 0 < m) (hm : m ≤ D.length)
    (hw : m = D.length → m.isPowerOfTwo) :
    (if m.isPowerOfTwo then merkleTreeHash H (D.take m) :: subproof H m D true
      else subproof H m D true) = subproof H m D false := by
  induction hn : D.length using Nat.strong_induction_on generalizing D m with
  | _ n ih =>
    subst hn
    rcases hm.eq_or_lt with rfl | hm
    · rw [if_pos (hw rfl), subproof_whole, subproof_whole, List.take_length]
      rfl
    · have hD : 2 ≤ D.length := by omega
      obtain ⟨h, hk, hlt, hle⟩ := largestPow2Lt_spec D.length hD
      have htake : (D.take (2 ^ h)).length = 2 ^ h := by simp only [List.length_take]; omega
      by_cases hml : m ≤ 2 ^ h
      · have hi := ih _ (by omega) (D.take (2 ^ h)) m h0 (by omega)
          (fun he => ⟨h, by omega⟩) rfl
        rw [subproof_left H m D true hm hD (by omega), subproof_left H m D false hm hD (by omega), hk, ← hi,
          List.take_take, Nat.min_eq_left hml]
        split_ifs <;> rfl
      · rw [if_neg (not_isPowerOfTwo_between m h (by omega) (by omega)),
          subproof_right H m D true hm hD (by omega), subproof_right H m D false hm hD (by omega)]

theorem subproof_nonempty (H : Hasher δ) (D : List δ) (m : ℕ) (b : Bool) (h0 : 0 < m) (hm : m < D.length) :
    subproof H m D b ≠ [] := by
  by_cases hk : m ≤ largestPow2Lt D.length
  · rw [subproof_left H m D b hm (by omega) hk]
    simp
  · rw [subproof_right H m D b hm (by omega) (by omega)]
    simp

theorem verifyConsistency_eq_climb [DecidableEq δ] (H : Hasher δ) (m n : ℕ) (p : List δ) (r root : δ)
    (h0 : 0 < m) (hm : m < n) (hp : p ≠ []) :
    verifyConsistency H m n p r root = true ↔
      ∃ seed cs, (if m.isPowerOfTwo then r :: p else p) = seed :: cs ∧
        climbLeft H.node seed (oddSides (m - 1) (n - 1)) cs = some r ∧
        climb H.node seed (oddSides (m - 1) (n - 1)) cs = some root := by
  have hpow : m &&& (m - 1) = 0 ↔ m.isPowerOfTwo := Nat.and_sub_one_eq_zero_iff_isPowerOfTwo (by omega)
  simp only [verifyConsistency, oddSides, show ¬ m = n by omega, show ¬ m = 0 by omega,
    show ¬ m > n by omega, List.isEmpty_iff, hp, or_self, ↓reduceIte, hpow]
  cases he : (if m.isPowerOfTwo then r :: p else p) with
  | nil => simp
  | cons seed cs =>
    simp only [List.cons.injEq, and_assoc, exists_and_left, exists_eq_left',
      ← foldConsistency_eq_climb]
    cases hf : foldConsistency H (shiftOdd (m - 1) (n - 1)).1 (shiftOdd (m - 1) (n - 1)).2 seed seed cs with
    | none => simp
    | some c => simp [Prod.ext_iff, and_comm, and_assoc]

theorem consistencyProof_complete [DecidableEq δ] (H : Hasher δ) (D : List δ) (m : ℕ)
    (h0 : 0 < m) (hm : m ≤ D.length) :
    ∃ p, consistencyProof H m D = some p ∧ (p = [] ↔ m = D.length) ∧
      verifyConsistency H m D.length p (merkleTreeHash H (D.take m)) (merkleTreeHash H D) = true := by
  refine ⟨subproof H m D true, by rw [consistencyProof, if_neg (by omega)], ?_⟩
  rcases hm.eq_or_lt with rfl | hlt
  · simp [subproof_whole, verifyConsistency]
  · have hne := subproof_nonempty H D m true h0 hlt
    refine ⟨⟨fun h => absurd h hne, fun h => absurd h (by omega)⟩, ?_⟩
    rw [verifyConsistency_eq_climb H m D.length _ _ _ h0 hlt hne, subproof_true H D m h0 hm (by omega)]
    exact subproof_climb H D m h0 hlt

/-- No path makes a larger tree consistent with a root other than that of its own prefix. -/
theorem verifyConsistency_sound [DecidableEq δ] (H : Hasher δ) (hnode : Function.Injective2 H.node)
    (D : List δ) (m : ℕ) (h0 : 0 < m) (hm : m ≤ D.length) (p : List δ) (r : δ)
    (h : verifyConsistency H m D.length p r (merkleTreeHash H D) = true) :
    r = merkleTreeHash H (D.take m) := by
  rcases hm.eq_or_lt with rfl | hlt
  · rw [List.take_length]
    simp only [verifyConsistency, ↓reduceIte, Bool.and_eq_true, beq_iff_eq] at h
    exact h.2
  · have hp : p ≠ [] := by
      rintro rfl
      simp [verifyConsistency, show ¬ m = D.length by omega] at h
    obtain ⟨seed, cs, -, hl, hc⟩ := (verifyConsistency_eq_climb H m D.length p r _ h0 hlt hp).mp h
    obtain ⟨seed', cs', -, hl', hc'⟩ := subproof_climb H D m h0 hlt
    obtain ⟨rfl, rfl⟩ := climb_injective H.node hnode _ _ _ _ _ _ hc hc'
    exact Option.some.inj (hl.symm.trans hl')

theorem consistencyProof_complete_sample :
    ∃ p, consistencyProof sampleHasher 2 sampleLeaves = some p ∧ (p = [] ↔ 2 = sampleLeaves.length) ∧
      verifyConsistency sampleHasher 2 3 p (merkleTreeHash sampleHasher (sampleLeaves.take 2))
        (merkleTreeHash sampleHasher sampleLeaves) = true :=
  consistencyProof_complete sampleHasher sampleLeaves 2 (by decide) (by decide)

theorem verifyConsistency_sound_sample :
    verifyConsistency sampleHasher 2 3 [sampleLeaves[2]] samplePairRoot
        (merkleTreeHash sampleHasher sampleLeaves) = true ∧
      samplePairRoot = merkleTreeHash sampleHasher (sampleLeaves.take 2) :=
  have h : verifyConsistency sampleHasher 2 3 [sampleLeaves[2]] samplePairRoot
      (merkleTreeHash sampleHasher sampleLeaves) = true := by decide +kernel
  ⟨h, verifyConsistency_sound sampleHasher sampleHasher_injective sampleLeaves 2 (by decide)
  (by decide) _ _ h⟩

end Acdp.Crypto.Merkle
