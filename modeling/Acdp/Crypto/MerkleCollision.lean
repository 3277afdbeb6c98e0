import Acdp.Foundation.AuditCollision
import Acdp.Crypto.MerkleConsistency

namespace Acdp.Crypto.Merkle

open Acdp.Foundation
open Acdp.Foundation.AuditPath

section Nodes

variable {δ : Type}

def treeNodes (H : Hasher δ) (D : List δ) : List (δ × δ) :=
  if D.length < 2 then []
  else
    let k := largestPow2Lt D.length
    (merkleTreeHash H (D.take k), merkleTreeHash H (D.drop k)) ::
      (treeNodes H (D.take k) ++ treeNodes H (D.drop k))
termination_by D.length
decreasing_by
  · have := largestPow2Lt_lt D.length (by omega)
    simp only [List.length_take]
    omega
  · have := largestPow2Lt_pos D.length (by omega)
    simp only [List.length_drop]
    omega

def inclusionNodes (H : Hasher δ) (l : δ) (m n : ℕ) (p : List δ) : List (δ × δ) :=
  hashed H.node l (walkSides m (n - 1)) p

def consistencyNodes (H : Hasher δ) (m n : ℕ) (p : List δ) (r : δ) : List (δ × δ) :=
  match (if m.isPowerOfTwo then r :: p else p) with
  | [] => []
  | seed :: cs => hashed H.node seed (oddSides (m - 1) (n - 1)) cs

def nodeOf (H : Hasher δ) (x : δ × δ) : δ := H.node x.1 x.2

variable [DecidableEq δ]

theorem verifyInclusion_binds (H : Hasher δ) (D : List δ) (m : ℕ) (d : δ) (hd : D[m]? = some d)
    (l : δ) (p : List δ) (h : verifyInclusion H l m D.length p (merkleTreeHash H D) = true) :
    ∃ q, inclusionPath H m D = some q ∧ ((l = d ∧ p = q) ∨
      Collision (nodeOf H) (inclusionNodes H l m D.length p) (inclusionNodes H d m D.length q)) := by
  obtain ⟨q, hq, hc⟩ := inclusionPath_climb H D m d hd
  have hm := (List.getElem?_eq_some_iff.mp hd).1
  have hp := (verifyInclusion_eq_climb H l _ m D.length p hm).mp h
  exact ⟨q, hq, climb_collision H.node _ _ _ _ _ _ hp hc⟩

theorem verifyInclusion_served (H : Hasher δ) (D : List δ) (m : ℕ) (d : δ) (hd : D[m]? = some d) :
    ∃ q, inclusionPath H m D = some q ∧ verifyInclusion H d m D.length q (merkleTreeHash H D) = true := by
  obtain ⟨q, hq, hc⟩ := inclusionPath_climb H D m d hd
  exact ⟨q, hq, (verifyInclusion_eq_climb H _ _ m D.length q (List.getElem?_eq_some_iff.mp hd).1).mpr hc⟩

theorem verifyConsistency_binds (H : Hasher δ) (D : List δ) (m : ℕ) (p : List δ) (r : δ)
    (h : verifyConsistency H m D.length p r (merkleTreeHash H D) = true) :
    m ≤ D.length ∧ (r = merkleTreeHash H (D.take m) ∨ ∃ q, consistencyProof H m D = some q ∧
      Collision (nodeOf H) (consistencyNodes H m D.length p r)
        (consistencyNodes H m D.length q (merkleTreeHash H (D.take m)))) := by
  rcases eq_or_ne m D.length with rfl | hne
  · refine ⟨le_rfl, .inl ?_⟩
    rw [List.take_length]
    simp only [verifyConsistency, ↓reduceIte, Bool.and_eq_true, beq_iff_eq] at h
    exact h.2
  · have hbounds : 0 < m ∧ m < D.length ∧ p ≠ [] := by
      by_cases hbad : m = 0 ∨ m > D.length ∨ p.isEmpty
      · rw [verifyConsistency, if_neg hne, if_pos hbad] at h
        cases h
      · simp only [List.isEmpty_iff, not_or] at hbad
        exact ⟨by omega, by omega, hbad.2.2⟩
    obtain ⟨h0, hlt, hp⟩ := hbounds
    refine ⟨hlt.le, ?_⟩
    obtain ⟨seed, cs, hseed, hl, hc⟩ := (verifyConsistency_eq_climb H m D.length p r _ h0 hlt hp).mp h
    obtain ⟨seed', cs', hsub, hl', hc'⟩ := subproof_climb H D m h0 hlt
    rcases climb_collision H.node _ _ _ _ _ _ hc hc' with ⟨rfl, rfl⟩ | hcol
    · exact .inl (Option.some.inj (hl.symm.trans hl'))
    · refine .inr ⟨subproof H m D true, by rw [consistencyProof, if_neg (by omega)], ?_⟩
      rw [← subproof_true H D m h0 hlt.le (by omega)] at hsub
      rw [consistencyNodes, consistencyNodes, hseed, hsub]
      exact hcol

end Nodes

section Inputs

variable (sha256 : List UInt8 → Digest)

def nodeInput (x : Digest × Digest) : List UInt8 := nodeHashPrefix :: (x.1.toList ++ x.2.toList)

def treeInputs (leaves : List (List UInt8)) : List (List UInt8) :=
  if leaves = [] then [[]]
  else leaves.map (leafHashPrefix :: ·) ++
    (treeNodes (Hasher.ofSha256 sha256) (leaves.map (leafHash sha256))).map nodeInput

theorem nodeInput_injective : Function.Injective nodeInput := by
  intro x y h
  rw [nodeInput, nodeInput, List.cons.injEq] at h
  obtain ⟨h1, h2⟩ := List.append_inj h.2 (by simp)
  exact Prod.ext (Vector.toList_inj.mp h1) (Vector.toList_inj.mp h2)

theorem collision_nodeInput {xs ys : List (Digest × Digest)}
    (h : Collision (nodeOf (Hasher.ofSha256 sha256)) xs ys) :
    Collision sha256 (xs.map nodeInput) (ys.map nodeInput) :=
  h.map sha256 nodeInput nodeInput_injective (fun _ => rfl)

theorem treeInputs_append (xs ys : List (List UInt8)) (hxs : xs ≠ []) (hys : ys ≠ [])
    (hk : largestPow2Lt (xs ++ ys).length = xs.length) :
    treeInputs sha256 xs ⊆ treeInputs sha256 (xs ++ ys) ∧
      treeInputs sha256 ys ⊆ treeInputs sha256 (xs ++ ys) ∧
      nodeInput (merkleTreeHash (Hasher.ofSha256 sha256) (xs.map (leafHash sha256)),
        merkleTreeHash (Hasher.ofSha256 sha256) (ys.map (leafHash sha256))) ∈ treeInputs sha256
          (xs ++ ys) := by
  have hx := List.length_pos_iff.mpr hxs
  have hy := List.length_pos_iff.mpr hys
  have hnodes : treeNodes (Hasher.ofSha256 sha256) ((xs ++ ys).map (leafHash sha256)) =
      (merkleTreeHash (Hasher.ofSha256 sha256) (xs.map (leafHash sha256)),
        merkleTreeHash (Hasher.ofSha256 sha256) (ys.map (leafHash sha256))) ::
      (treeNodes (Hasher.ofSha256 sha256) (xs.map (leafHash sha256)) ++
        treeNodes (Hasher.ofSha256 sha256) (ys.map (leafHash sha256))) := by
    rw [treeNodes, if_neg (by rw [List.length_map, List.length_append]; omega)]
    dsimp only
    rw [List.length_map, hk, List.map_append, List.take_left' (by simp), List.drop_left' (by simp)]
  rw [treeInputs, treeInputs, treeInputs, if_neg hxs, if_neg hys, if_neg (by simp [hxs]), hnodes,
    List.map_cons, List.map_append, List.map_append]
  refine ⟨?_, ?_, ?_⟩
  · intro x hx
    simp only [List.mem_append, List.mem_cons] at hx ⊢
    tauto
  · intro x hx
    simp only [List.mem_append, List.mem_cons] at hx ⊢
    tauto
  · exact List.mem_append_right _ List.mem_cons_self

theorem take_append_largestPow2Lt (xs : List (List UInt8)) (h : 2 ≤ xs.length) :
    ∃ l r, xs = l ++ r ∧ l ≠ [] ∧ r ≠ [] ∧ largestPow2Lt xs.length = l.length ∧
      merkleTreeHash (Hasher.ofSha256 sha256) (xs.map (leafHash sha256)) =
        nodeHash sha256 (merkleTreeHash (Hasher.ofSha256 sha256) (l.map (leafHash sha256)))
          (merkleTreeHash (Hasher.ofSha256 sha256) (r.map (leafHash sha256))) := by
  have hpos := largestPow2Lt_pos xs.length h
  have hlt := largestPow2Lt_lt xs.length h
  refine ⟨xs.take (largestPow2Lt xs.length), xs.drop (largestPow2Lt xs.length),
    (List.take_append_drop _ _).symm, List.ne_nil_of_length_pos (by rw [List.length_take]; omega),
    List.ne_nil_of_length_pos (by rw [List.length_drop]; omega), by rw [List.length_take]; omega, ?_⟩
  rw [merkleTreeHash_split _ _ (by rwa [List.length_map]), List.length_map, List.map_take, List.map_drop]
  rfl

theorem treeInputs_last (zs : List (List UInt8)) :
    ∃ input ∈ treeInputs sha256 zs,
      sha256 input = merkleTreeHash (Hasher.ofSha256 sha256) (zs.map (leafHash sha256)) ∧
      ((zs = [] ∧ input = []) ∨ (∃ b, zs = [b] ∧ input = leafHashPrefix :: b) ∨
        (2 ≤ zs.length ∧ ∃ x, input = nodeInput x)) := by
  rcases zs with _ | ⟨b, _ | ⟨c, rest⟩⟩
  · exact ⟨[], by simp [treeInputs], by rw [List.map_nil, merkleTreeHash]; rfl, .inl ⟨rfl, rfl⟩⟩
  · refine ⟨leafHashPrefix :: b, by simp [treeInputs], ?_, .inr (.inl ⟨b, rfl, rfl⟩)⟩
    rw [List.map_singleton, merkleTreeHash]
    rfl
  · obtain ⟨l, r, heq, hl, hr, hk, hroot⟩ := take_append_largestPow2Lt sha256 (b :: c :: rest) (by simp)
    rw [heq] at hk hroot ⊢
    refine ⟨_, (treeInputs_append sha256 l r hl hr hk).2.2, hroot.symm, .inr (.inr ⟨?_, _, rfl⟩)⟩
    rw [← heq]
    simp

theorem merkleTreeHash_binds (xs ys : List (List UInt8))
    (h : merkleTreeHash (Hasher.ofSha256 sha256) (xs.map (leafHash sha256)) =
      merkleTreeHash (Hasher.ofSha256 sha256) (ys.map (leafHash sha256))) :
    xs = ys ∨ Collision sha256 (treeInputs sha256 xs) (treeInputs sha256 ys) := by
  induction hn : xs.length using Nat.strong_induction_on generalizing xs ys with
  | _ n ih =>
    subst hn
    obtain ⟨x, hx, hxroot, hxs⟩ := treeInputs_last sha256 xs
    obtain ⟨y, hy, hyroot, hys⟩ := treeInputs_last sha256 ys
    rcases eq_or_collision (hxroot.trans (h.trans hyroot.symm)) hx hy with hxy | hcol
    swap
    · exact .inr hcol
    rcases hxs with ⟨rfl, rfl⟩ | ⟨b, rfl, rfl⟩ | ⟨hxlen, u, rfl⟩
    · rcases hys with ⟨rfl, -⟩ | ⟨c, rfl, rfl⟩ | ⟨-, v, rfl⟩
      · exact .inl rfl
      · cases hxy
      · cases hxy
    · rcases hys with ⟨rfl, rfl⟩ | ⟨c, rfl, rfl⟩ | ⟨-, v, rfl⟩
      · cases hxy
      · rw [List.cons.injEq] at hxy
        rw [hxy.2]
        exact .inl rfl
      · rw [nodeInput, List.cons.injEq] at hxy
        exact absurd hxy.1 (by decide)
    · rcases hys with ⟨rfl, rfl⟩ | ⟨c, rfl, rfl⟩ | ⟨hylen, v, rfl⟩
      · cases hxy
      · rw [nodeInput, List.cons.injEq] at hxy
        exact absurd hxy.1 (by decide)
      · obtain ⟨l, r, rfl, hl, hr, hk, hroot⟩ := take_append_largestPow2Lt sha256 xs hxlen
        obtain ⟨l', r', rfl, hl', hr', hk', hroot'⟩ := take_append_largestPow2Lt sha256 ys hylen
        obtain ⟨hsubl, hsubr, hmem⟩ := treeInputs_append sha256 l r hl hr hk
        obtain ⟨hsubl', hsubr', hmem'⟩ := treeInputs_append sha256 l' r' hl' hr' hk'
        rcases eq_or_collision (f := sha256) (hroot.symm.trans (h.trans hroot')) hmem hmem' with heq | hcol
        swap
        · exact .inr hcol
        obtain ⟨hleft, hright⟩ := Prod.mk.inj (nodeInput_injective heq)
        have hlen := List.length_pos_iff.mpr hl
        have hlen' := List.length_pos_iff.mpr hr
        rcases ih _ (by rw [List.length_append]; omega) l l' hleft rfl with rfl | hcol
        · rcases ih _ (by rw [List.length_append]; omega) r r' hright rfl with rfl | hcol
          · exact .inl rfl
          · exact .inr (hcol.mono hsubr hsubr')
        · exact .inr (hcol.mono hsubl hsubl')

end Inputs

end Acdp.Crypto.Merkle
