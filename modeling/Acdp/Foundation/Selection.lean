import Mathlib.Data.List.Destutter
import Mathlib.Data.List.MinMax
import Mathlib.Data.Prod.Lex
import Mathlib.Order.Lattice

namespace Acdp.Foundation.Selection

variable {α κ : Type*} [LinearOrder κ]

theorem lt_of_mem_zipIdx_filter (q : α → Bool) (l : List α) (n : ℕ) (c : α × ℕ)
    (hc : c ∈ (l.zipIdx (n + 1)).filter (fun p => q p.1)) : n < c.2 := by
  have hmem := (List.mem_filter.mp hc).1
  have hle := (List.mem_zipIdx (x := c.1) (i := c.2) (by simpa using hmem)).1
  omega

theorem argmax_zipIdx (g : α → κ) (q : α → Bool) (l : List α) (n : ℕ) :
    (((l.zipIdx n).filter (fun p => q p.1)).reverse.argmax (fun p => toLex (g p.1, p.2))).map Prod.fst =
      (l.filter q).reverse.argmax g := by
  induction l generalizing n with
  | nil => rfl
  | cons a l ih =>
    rw [List.zipIdx_cons, List.filter_cons, List.filter_cons]
    by_cases ha : q a = true
    · simp only [ha, if_true, List.reverse_cons]
      rw [List.argmax_concat, List.argmax_concat, ← ih (n + 1)]
      cases hc : List.argmax (fun p : α × ℕ => toLex (g p.1, p.2))
          ((l.zipIdx (n + 1)).filter (fun p => q p.1)).reverse with
      | none => rfl
      | some c =>
        have hmem : c ∈ (l.zipIdx (n + 1)).filter (fun p => q p.1) :=
          List.mem_reverse.mp (List.argmax_mem hc)
        have hlt := lt_of_mem_zipIdx_filter q l n c hmem
        have hiff : toLex (g c.1, c.2) < toLex (g a, n) ↔ g c.1 < g a := by
          rw [Prod.Lex.toLex_lt_toLex]
          constructor
          · rintro (h | ⟨_, h⟩)
            · exact h
            · exact absurd h (by simpa using hlt.le)
          · exact .inl
        simp only [Option.map_some, hiff]
        split_ifs <;> rfl
    · simp only [ha, Bool.false_eq_true, if_false]
      exact ih (n + 1)

theorem argmin_fst_le {ι : Type*} [LinearOrder ι] (rank : α → κ ×ₗ ι) (l : List α) (m : α)
    (hm : m ∈ l.argmin rank) : m ∈ l ∧ ∀ a ∈ l, (ofLex (rank m)).1 ≤ (ofLex (rank a)).1 := by
  refine ⟨List.argmin_mem hm, ?_⟩
  intro a ha
  have hle := List.le_of_mem_argmin ha hm
  rcases Prod.Lex.le_iff.mp hle with hlt | ⟨heq, -⟩
  · exact hlt.le
  · exact heq.le

theorem map_argmin (f : α → κ) (l : List α) : (l.argmin f).map f = (l.map f).min? := by
  cases hmin : l.argmin f with
  | none =>
    rw [List.argmin_eq_none.mp hmin]
    rfl
  | some m =>
    refine (List.min?_eq_some_iff.mpr ⟨List.mem_map_of_mem (List.argmin_mem hmin), fun b hb => ?_⟩).symm
    obtain ⟨a, ha, rfl⟩ := List.mem_map.mp hb
    exact List.le_of_mem_argmin ha hmin

theorem min?_congr (l l' : List κ) (h : ∀ a, a ∈ l ↔ a ∈ l') : l.min? = l'.min? := by
  refine Option.ext fun a => ?_
  rw [List.min?_eq_some_iff, List.min?_eq_some_iff]
  simp only [h]

theorem min?_getD_le (top : κ) (htop : ∀ a, a ≤ top) (l l' : List κ) (h : l ⊆ l') :
    l'.min?.getD top ≤ l.min?.getD top := by
  cases hmin : l.min? with
  | none => exact htop _
  | some a =>
    obtain ⟨hmem, -⟩ := List.min?_eq_some_iff.mp hmin
    cases hmin' : l'.min? with
    | none =>
      rw [List.min?_eq_none_iff] at hmin'
      rw [hmin'] at h
      exact absurd (h hmem) List.not_mem_nil
    | some a' => exact (List.min?_eq_some_iff.mp hmin').2 a (h hmem)

theorem min?_getD_eq_iff (top bot : κ) (hne : bot ≠ top) (hbot : ∀ a, bot ≤ a) (l : List κ) :
    l.min?.getD top = bot ↔ bot ∈ l := by
  cases hmin : l.min? with
  | none =>
    rw [List.min?_eq_none_iff] at hmin
    subst hmin
    simpa using hne.symm
  | some a =>
    obtain ⟨hmem, hle⟩ := List.min?_eq_some_iff.mp hmin
    rw [Option.getD_some]
    exact ⟨fun heq => heq ▸ hmem, fun hin => (hle bot hin).antisymm (hbot a)⟩

omit [LinearOrder κ] in
theorem mem_map_destutter' (R : α → α → Prop) [DecidableRel R] (f : α → κ)
    (hR : ∀ a b, ¬ R a b → f a = f b) (l : List α) (a : α) (y : κ) :
    y ∈ (l.destutter' R a).map f ↔ y ∈ (a :: l).map f := by
  induction l generalizing a with
  | nil => rfl
  | cons b l ih =>
    by_cases hab : R a b
    · rw [List.destutter'_cons_pos l hab, List.map_cons, List.mem_cons, ih b, List.map_cons (l := b :: l),
        List.mem_cons]
    · rw [List.destutter'_cons_neg l hab, ih a]
      simp [hR a b hab]

omit [LinearOrder κ] in
theorem mem_map_destutter (R : α → α → Prop) [DecidableRel R] (f : α → κ) (hR : ∀ a b, ¬ R a b → f a = f b)
    (l : List α) (y : κ) : y ∈ (l.destutter R).map f ↔ y ∈ l.map f := by
  cases l with
  | nil => rfl
  | cons a l => exact mem_map_destutter' R f hR l a y

end Acdp.Foundation.Selection
