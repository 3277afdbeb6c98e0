import Mathlib.Data.List.Basic
import Mathlib.Data.Nat.Bitwise

namespace Acdp.Crypto.Merkle

abbrev Digest := Vector UInt8 32

def leafHashPrefix : UInt8 := 0x00

def nodeHashPrefix : UInt8 := 0x01

def leafHash (sha256 : List UInt8 → Digest) (leafBytes : List UInt8) : Digest :=
  sha256 (leafHashPrefix :: leafBytes)

def nodeHash (sha256 : List UInt8 → Digest) (left right : Digest) : Digest :=
  sha256 (nodeHashPrefix :: (left.toList ++ right.toList))

/-- The hashes the tree machinery calls, over an arbitrary digest type. -/
structure Hasher (δ : Type) where
  empty : δ
  leaf : List UInt8 → δ
  node : δ → δ → δ

def Hasher.ofSha256 (sha256 : List UInt8 → Digest) : Hasher Digest where
  empty := sha256 []
  leaf := leafHash sha256
  node := nodeHash sha256

variable {δ : Type}

def doubleWhileLt (n k : ℕ) : ℕ :=
  if 0 < k ∧ k * 2 < n then doubleWhileLt n (k * 2) else k
termination_by n - k

def largestPow2Lt (n : ℕ) : ℕ := doubleWhileLt n 1

theorem doubleWhileLt_spec (n h : ℕ) (hn : 2 ^ h < n) :
    ∃ j, doubleWhileLt n (2 ^ h) = 2 ^ j ∧ 2 ^ j < n ∧ n ≤ 2 ^ (j + 1) := by
  induction hm : n - 2 ^ h using Nat.strong_induction_on generalizing h with
  | _ m ih =>
    have hpos : 0 < 2 ^ h := Nat.two_pow_pos h
    rw [doubleWhileLt]
    split_ifs with hc
    · rw [← Nat.pow_succ] at hc ⊢
      exact ih (n - 2 ^ (h + 1)) (by rw [Nat.pow_succ] at hc ⊢; omega) (h + 1) hc.2 rfl
    · exact ⟨h, rfl, hn, by rw [Nat.pow_succ]; omega⟩

theorem largestPow2Lt_spec (n : ℕ) (hn : 2 ≤ n) :
    ∃ h, largestPow2Lt n = 2 ^ h ∧ 2 ^ h < n ∧ n ≤ 2 ^ (h + 1) :=
  doubleWhileLt_spec n 0 hn

theorem largestPow2Lt_pos (n : ℕ) (hn : 2 ≤ n) : 0 < largestPow2Lt n := by
  obtain ⟨h, hk, -, -⟩ := largestPow2Lt_spec n hn
  rw [hk]
  exact Nat.two_pow_pos h

theorem largestPow2Lt_lt (n : ℕ) (hn : 2 ≤ n) : largestPow2Lt n < n := by
  obtain ⟨h, hk, hlt, -⟩ := largestPow2Lt_spec n hn
  rw [hk]
  exact hlt

theorem largestPow2Lt_unique (n h : ℕ) (hlt : 2 ^ h < n) (hle : n ≤ 2 ^ (h + 1)) :
    largestPow2Lt n = 2 ^ h := by
  have hpos : 0 < 2 ^ h := Nat.two_pow_pos h
  obtain ⟨j, hj, hjlt, hjle⟩ := largestPow2Lt_spec n (by omega)
  have h1 : h < j + 1 := (Nat.pow_lt_pow_iff_right (by omega)).mp (hlt.trans_le hjle)
  have h2 : j < h + 1 := (Nat.pow_lt_pow_iff_right (by omega)).mp (hjlt.trans_le hle)
  rw [hj, show j = h by omega]

def merkleTreeHash (H : Hasher δ) (leafHashes : List δ) : δ :=
  match leafHashes with
  | [] => H.empty
  | [d] => d
  | d :: e :: rest =>
    let k := largestPow2Lt (d :: e :: rest).length
    H.node (merkleTreeHash H ((d :: e :: rest).take k)) (merkleTreeHash H ((d :: e :: rest).drop k))
termination_by leafHashes.length
decreasing_by
  · have := largestPow2Lt_lt (d :: e :: rest).length (by simp)
    simp only [List.length_take]
    omega
  · have := largestPow2Lt_pos (d :: e :: rest).length (by simp)
    simp only [List.length_drop, List.length_cons] at *
    omega

def inclusionPath (H : Hasher δ) (leafIndex : ℕ) (leafHashes : List δ) : Option (List δ) :=
  let n := leafHashes.length
  if leafIndex ≥ n then none
  else if n = 1 then some []
  else
    let k := largestPow2Lt n
    if leafIndex < k then
      (inclusionPath H leafIndex (leafHashes.take k)).map (· ++ [merkleTreeHash H (leafHashes.drop k)])
    else
      (inclusionPath H (leafIndex - k) (leafHashes.drop k)).map (· ++ [merkleTreeHash H (leafHashes.take k)])
termination_by leafHashes.length
decreasing_by
  · have := largestPow2Lt_lt leafHashes.length (by omega)
    simp only [List.length_take]
    omega
  · have := largestPow2Lt_pos leafHashes.length (by omega)
    simp only [List.length_drop]
    omega

def subproof (H : Hasher δ) (m : ℕ) (d : List δ) (b : Bool) : List δ :=
  let n := d.length
  if m = n then (if b then [] else [merkleTreeHash H d])
  -- callers keep `0 < m ≤ n`, so a tree this small is never split
  else if n < 2 then []
  else
    let k := largestPow2Lt n
    if m ≤ k then subproof H m (d.take k) b ++ [merkleTreeHash H (d.drop k)]
    else subproof H (m - k) (d.drop k) false ++ [merkleTreeHash H (d.take k)]
termination_by d.length
decreasing_by
  · have := largestPow2Lt_lt d.length (by omega)
    simp only [List.length_take]
    omega
  · have := largestPow2Lt_pos d.length (by omega)
    simp only [List.length_drop]
    omega

def consistencyProof (H : Hasher δ) (first : ℕ) (leafHashes : List δ) : Option (List δ) :=
  if first = 0 ∨ first > leafHashes.length then none else some (subproof H first leafHashes true)

def shiftEven (fnode snode : ℕ) : ℕ × ℕ :=
  if fnode % 2 = 0 ∧ fnode ≠ 0 then shiftEven (fnode >>> 1) (snode >>> 1) else (fnode, snode)
termination_by fnode
decreasing_by simp only [Nat.shiftRight_one]; omega

def shiftOdd (fnode snode : ℕ) : ℕ × ℕ :=
  if fnode % 2 = 1 then shiftOdd (fnode >>> 1) (snode >>> 1) else (fnode, snode)
termination_by fnode
decreasing_by simp only [Nat.shiftRight_one]; omega

def afterLeft (fnode snode : ℕ) : ℕ × ℕ :=
  let c := if fnode % 2 = 0 then shiftEven fnode snode else (fnode, snode)
  (c.1 >>> 1, c.2 >>> 1)

def foldInclusion (H : Hasher δ) : ℕ → ℕ → δ → List δ → Option (ℕ × δ)
  | _, snode, r, [] => some (snode, r)
  | fnode, snode, r, p :: path =>
    if snode = 0 then none
    else if fnode % 2 = 1 ∨ fnode = snode then
      foldInclusion H (afterLeft fnode snode).1 (afterLeft fnode snode).2 (H.node p r) path
    else foldInclusion H (fnode >>> 1) (snode >>> 1) (H.node r p) path

def verifyInclusion [DecidableEq δ] (H : Hasher δ) (leafHash : δ) (leafIndex treeSize : ℕ)
    (path : List δ) (root : δ) : Bool :=
  if leafIndex ≥ treeSize then false
  else match foldInclusion H leafIndex (treeSize - 1) leafHash path with
    | none => false
    | some (snode, r) => snode == 0 && r == root

def foldConsistency (H : Hasher δ) : ℕ → ℕ → δ → δ → List δ → Option (ℕ × δ × δ)
  | _, snode, fr, sr, [] => some (snode, fr, sr)
  | fnode, snode, fr, sr, c :: path =>
    if snode = 0 then none
    else if fnode % 2 = 1 ∨ fnode = snode then
      foldConsistency H (afterLeft fnode snode).1 (afterLeft fnode snode).2 (H.node c fr) (H.node c sr) path
    else foldConsistency H (fnode >>> 1) (snode >>> 1) fr (H.node sr c) path

def verifyConsistency [DecidableEq δ] (H : Hasher δ) (first second : ℕ) (path : List δ)
    (firstRoot secondRoot : δ) : Bool :=
  if first = second then path.isEmpty && firstRoot == secondRoot
  else if first = 0 ∨ first > second ∨ path.isEmpty then false
  else
    let elements := if first &&& (first - 1) = 0 then firstRoot :: path else path
    let c := shiftOdd (first - 1) (second - 1)
    match elements with
    | [] => false
    | seed :: rest =>
      match foldConsistency H c.1 c.2 seed seed rest with
      | none => false
      | some (snode, fr, sr) => fr == firstRoot && sr == secondRoot && snode == 0

end Acdp.Crypto.Merkle
