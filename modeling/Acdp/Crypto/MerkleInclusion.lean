import Acdp.Crypto.MerkleSides
import Mathlib.Data.Nat.Pairing
import Mathlib.Tactic.NormNum

namespace Acdp.Crypto.Merkle

open Acdp.Foundation.AuditPath

variable {δ : Type}

theorem merkleTreeHash_split (H : Hasher δ) (D : List δ) (hD : 2 ≤ D.length) :
    merkleTreeHash H D = H.node (merkleTreeHash H (D.take (largestPow2Lt D.length)))
      (merkleTreeHash H (D.drop (largestPow2Lt D.length))) := by
  match D, hD with
  | d :: e :: rest, _ => rw [merkleTreeHash]

theorem inclusionPath_single (H : Hasher δ) (d : δ) : inclusionPath H 0 [d] = some [] := by
  rw [inclusionPath]
  simp

theorem inclusionPath_left (H : Hasher δ) (m : ℕ) (D : List δ) (hD : 2 ≤ D.length)
    (hm : m < largestPow2Lt D.length) :
    inclusionPath H m D = (inclusionPath H m (D.take (largestPow2Lt D.length))).map
      (· ++ [merkleTreeHash H (D.drop (largestPow2Lt D.length))]) := by
  have hlt := largestPow2Lt_lt D.length hD
  rw [inclusionPath]
  simp only [ge_iff_le, show ¬ D.length ≤ m by omega, show ¬ D.length = 1 by omega, hm, ↓reduceIte]

theorem inclusionPath_right (H : Hasher δ) (m : ℕ) (D : List δ) (hD : 2 ≤ D.length)
    (hm : largestPow2Lt D.length ≤ m) (hm' : m < D.length) :
    inclusionPath H m D = (inclusionPath H (m - largestPow2Lt D.length)
      (D.drop (largestPow2Lt D.length))).map
        (· ++ [merkleTreeHash H (D.take (largestPow2Lt D.length))]) := by
  rw [inclusionPath]
  simp only [ge_iff_le, show ¬ D.length ≤ m by omega, show ¬ D.length = 1 by omega,
    show ¬ m < largestPow2Lt D.length by omega, ↓reduceIte]

theorem inclusionPath_climb (H : Hasher δ) (D : List δ) (m : ℕ) (l : δ) (hl : D[m]? = some l) :
    ∃ p, inclusionPath H m D = some p ∧
      climb H.node l (walkSides m (D.length - 1)) p = some (merkleTreeHash H D) := by
  induction hn : D.length using Nat.strong_induction_on generalizing D m with
  | _ n ih =>
    subst hn
    have hm : m < D.length := (List.getElem?_eq_some_iff.mp hl).1
    by_cases hD : 2 ≤ D.length
    · obtain ⟨h, hk, hlt, hle⟩ := largestPow2Lt_spec D.length hD
      have hpos : 0 < 2 ^ h := Nat.two_pow_pos h
      have htake : (D.take (2 ^ h)).length = 2 ^ h := by simp only [List.length_take]; omega
      have hdrop : (D.drop (2 ^ h)).length = D.length - 2 ^ h := List.length_drop
      rw [merkleTreeHash_split H D hD, hk]
      by_cases hml : m < 2 ^ h
      · obtain ⟨p, hp, hc⟩ := ih _ (by omega) (D.take (2 ^ h)) m
          (by rw [List.getElem?_take_of_lt hml]; exact hl) rfl
        refine ⟨p ++ [merkleTreeHash H (D.drop (2 ^ h))], ?_, ?_⟩
        · rw [inclusionPath_left H m D hD (by omega), hk, hp]
          rfl
        · rw [walkSides_full_left h m (D.length - 1) hml (by omega) (by omega)]
          rw [htake] at hc
          exact climb_snoc H.node l _ _ _ p .right hc
      · obtain ⟨p, hp, hc⟩ := ih _ (by omega) (D.drop (2 ^ h)) (m - 2 ^ h)
          (by rw [List.getElem?_drop, Nat.add_sub_cancel' (by omega)]; exact hl) rfl
        refine ⟨p ++ [merkleTreeHash H (D.take (2 ^ h))], ?_, ?_⟩
        · rw [inclusionPath_right H m D hD (by omega) hm, hk, hp]
          rfl
        · have hw := walkSides_right h (m - 2 ^ h) (D.length - 2 ^ h - 1) (by omega)
            (by rw [Nat.pow_succ] at hle; omega)
          rw [Nat.sub_add_cancel (by omega), show D.length - 2 ^ h - 1 + 2 ^ h = D.length - 1 by omega] at hw
          rw [hw]
          rw [hdrop] at hc
          exact climb_snoc H.node l _ _ _ p .left hc
    · obtain ⟨d, rfl⟩ := List.length_eq_one_iff.mp (show D.length = 1 by omega)
      obtain rfl : m = 0 := by simpa using hm
      obtain rfl : d = l := by simpa using hl
      exact ⟨[], inclusionPath_single H d, by simp [walkSides_zero, climb, merkleTreeHash]⟩

theorem verifyInclusion_eq_climb [DecidableEq δ] (H : Hasher δ) (l root : δ) (m n : ℕ) (p : List δ)
    (hm : m < n) :
    verifyInclusion H l m n p root = true ↔ climb H.node l (walkSides m (n - 1)) p = some root := by
  rw [← foldInclusion_eq_climb, verifyInclusion, if_neg (by omega)]
  cases hf : foldInclusion H m (n - 1) l p with
  | none => simp
  | some c => simp [Prod.ext_iff]

/-- An audit path is accepted exactly when it is the one the generator builds for that leaf. -/
theorem verifyInclusion_iff [DecidableEq δ] (H : Hasher δ) (hnode : Function.Injective2 H.node)
    (D : List δ) (m : ℕ) (hm : m < D.length) (l : δ) (p : List δ) :
    verifyInclusion H l m D.length p (merkleTreeHash H D) = true ↔
      l = D[m] ∧ inclusionPath H m D = some p := by
  obtain ⟨q, hq, hc⟩ := inclusionPath_climb H D m D[m] (List.getElem?_eq_getElem hm)
  rw [verifyInclusion_eq_climb H l _ m D.length p hm, hq]
  constructor
  · intro h
    obtain ⟨rfl, rfl⟩ := climb_injective H.node hnode _ _ _ _ _ _ h hc
    exact ⟨rfl, rfl⟩
  · rintro ⟨rfl, h⟩
    obtain rfl := Option.some.inj h
    exact hc

def sampleLeaves : List ℕ :=
  [0x022a6979e6dab7aa5ae4c3e5e45f7e977112a7e63593820dbec1ec738a24f93c,
    0x57eb35615d47f34ec714cacdf5fd74608a5e8e102724e80b24b287c0c27b6a31,
    0x597fcb31282d34654c200d3418fca5705c648ebf326ec73d8ddef11841f876d8]

def samplePairRoot : ℕ := 0xb137985ff484fb600db93107c77b0365c80d78f5b429ded0fd97361d077999eb

def sampleRoot : ℕ := 0x36642e73c2540ab121e3a6bf9545b0a24982cd830eb13d3cd19de3ce6c021ec1

def sampleNode (l r : ℕ) : ℕ :=
  if (l, r) = (sampleLeaves[0], sampleLeaves[1]) then samplePairRoot
  else if (l, r) = (samplePairRoot, sampleLeaves[2]) then sampleRoot
  else 2 ^ 256 + Nat.pair l r

def sampleHasher : Hasher ℕ where
  empty := 0xe3b0c44298fc1c149afbf4c8996fb92427ae41e4649b934ca495991b7852b855
  leaf _ := 0
  node := sampleNode

theorem sampleHasher_injective : Function.Injective2 sampleHasher.node := by
  intro a a' b b' h
  have hp : samplePairRoot < 2 ^ 256 := by decide
  have hr : sampleRoot < 2 ^ 256 := by decide
  have hne : samplePairRoot ≠ sampleRoot := by decide
  simp only [sampleHasher, sampleNode] at h
  split_ifs at h with h1 h2 h3 h4 h5 h6 h7 h8
  · exact Prod.mk.inj (h1.trans h2.symm)
  all_goals try omega
  · exact Prod.mk.inj (h4.trans h6.symm)
  · exact Nat.pair_eq_pair.mp (by omega)

theorem verifyInclusion_iff_sample :
    verifyInclusion sampleHasher sampleLeaves[2] 2 3 [samplePairRoot]
      (merkleTreeHash sampleHasher sampleLeaves) = true :=
  (verifyInclusion_iff sampleHasher sampleHasher_injective sampleLeaves 2 (by decide) _ _).mpr
    ⟨rfl, by decide +kernel⟩

end Acdp.Crypto.Merkle
