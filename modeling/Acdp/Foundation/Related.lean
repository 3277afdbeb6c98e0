import Mathlib.Data.List.Forall2
import Mathlib.Data.List.Destutter
import Mathlib.Data.List.MinMax
import Mathlib.Data.List.Sort

namespace Acdp.Foundation.Related

variable {α β γ δ : Type} {R : α → β → Prop} {S : γ → δ → Prop}

theorem mapM_rel (as : List α) (bs : List β) (f : α → Option γ) (g : β → Option δ) (h : List.Forall₂ R as bs)
    (hfg : ∀ a b, R a b → Option.Rel S (f a) (g b)) : Option.Rel (List.Forall₂ S) (as.mapM f)
    (bs.mapM g) := by
  induction h with
  | nil => exact .some .nil
  | @cons a b as bs hab _ ih =>
    rw [List.mapM_cons, List.mapM_cons]
    have hhead := hfg a b hab
    cases hf : f a with
    | none =>
      rw [hf] at hhead
      cases hg : g b with
      | none => exact .none
      | some d =>
        rw [hg] at hhead
        cases hhead
    | some c =>
      rw [hf] at hhead
      cases hg : g b with
      | none =>
        rw [hg] at hhead
        cases hhead
      | some d =>
        rw [hg] at hhead
        cases hhead with
        | some hcd =>
          cases hcs : as.mapM f with
          | none =>
            rw [hcs] at ih
            cases hds : bs.mapM g with
            | none => exact .none
            | some ds =>
              rw [hds] at ih
              cases ih
          | some cs =>
            rw [hcs] at ih
            cases hds : bs.mapM g with
            | none =>
              rw [hds] at ih
              cases ih
            | some ds =>
              rw [hds] at ih
              cases ih with
              | some hrest => exact .some (.cons hcd hrest)

theorem bind_rel (x : Option α) (y : Option β) (f : α → Option γ) (g : β → Option δ) (h : Option.Rel R x y)
    (hfg : ∀ a b, R a b → Option.Rel S (f a) (g b)) : Option.Rel S (x.bind f) (y.bind g) := by
  cases h with
  | none => exact .none
  | some hab => exact hfg _ _ hab

theorem map_rel (x : Option α) (y : Option β) (f : α → γ) (g : β → δ) (h : Option.Rel R x y)
    (hfg : ∀ a b, R a b → S (f a) (g b)) : Option.Rel S (x.map f) (y.map g) := by
  cases h with
  | none => exact .none
  | some hab => exact .some (hfg _ _ hab)

theorem bind_eq_of_rel (x : Option α) (y : Option β) (f : α → Option γ) (g : β → Option γ)
    (h : Option.Rel R x y) (hfg : ∀ a b, R a b → f a = g b) : x.bind f = y.bind g := by
  cases h with
  | none => rfl
  | some hab => exact hfg _ _ hab

theorem isSome_eq (x : Option α) (y : Option β) (h : Option.Rel R x y) : x.isSome = y.isSome := by
  cases h <;> rfl

theorem any_eq (x : Option α) (y : Option β) (p : α → Bool) (q : β → Bool) (h : Option.Rel R x y)
    (hpq : ∀ a b, R a b → p a = q b) : x.any p = y.any q := by
  cases h with
  | none => rfl
  | some hab => exact hpq _ _ hab

theorem isEmpty_eq (as : List α) (bs : List β) (h : List.Forall₂ R as bs) : as.isEmpty = bs.isEmpty := by
  cases h <;> rfl

theorem all_eq (as : List α) (bs : List β) (p : α → Bool) (q : β → Bool) (h : List.Forall₂ R as bs)
    (hpq : ∀ a b, R a b → p a = q b) : as.all p = bs.all q := by
  induction h with
  | nil => rfl
  | @cons a b as bs hab _ ih => rw [List.all_cons, List.all_cons, hpq a b hab, ih]

theorem find?_rel (as : List α) (bs : List β) (p : α → Bool) (q : β → Bool) (h : List.Forall₂ R as bs)
    (hpq : ∀ a b, R a b → p a = q b) : Option.Rel R (as.find? p) (bs.find? q) := by
  induction h with
  | nil => exact .none
  | @cons a b as bs hab _ ih =>
    rw [List.find?_cons, List.find?_cons, hpq a b hab]
    cases q b with
    | true => exact .some hab
    | false => exact ih

theorem filter_rel (as : List α) (bs : List β) (p : α → Bool) (q : β → Bool) (h : List.Forall₂ R as bs)
    (hpq : ∀ a b, R a b → p a = q b) : List.Forall₂ R (as.filter p) (bs.filter q) := by
  induction h with
  | nil => exact .nil
  | @cons a b as bs hab _ ih =>
    rw [List.filter_cons, List.filter_cons, hpq a b hab]
    cases q b with
    | true => exact .cons hab ih
    | false => exact ih

theorem filterMap_eq (as : List α) (bs : List β) (f : α → Option γ) (g : β → Option γ)
    (h : List.Forall₂ R as bs) (hfg : ∀ a b, R a b → f a = g b) : as.filterMap f = bs.filterMap g := by
  induction h with
  | nil => rfl
  | @cons a b as bs hab _ ih => rw [List.filterMap_cons, List.filterMap_cons, hfg a b hab, ih]

theorem map_eq (as : List α) (bs : List β) (f : α → γ) (g : β → γ) (h : List.Forall₂ R as bs)
    (hfg : ∀ a b, R a b → f a = g b) : as.map f = bs.map g := by
  induction h with
  | nil => rfl
  | @cons a b as bs hab _ ih => rw [List.map_cons, List.map_cons, hfg a b hab, ih]

theorem filterMap_rel (as : List α) (bs : List β) (f : α → Option γ) (g : β → Option δ)
    (h : List.Forall₂ R as bs) (hfg : ∀ a b, R a b → Option.Rel S (f a) (g b)) : List.Forall₂ S
    (as.filterMap f) (bs.filterMap g) := by
  induction h with
  | nil => exact .nil
  | @cons a b as bs hab _ ih =>
    rw [List.filterMap_cons, List.filterMap_cons]
    have hhead := hfg a b hab
    cases hf : f a with
    | none =>
      rw [hf] at hhead
      cases hg : g b with
      | none => exact ih
      | some d =>
        rw [hg] at hhead
        cases hhead
    | some c =>
      rw [hf] at hhead
      cases hg : g b with
      | none =>
        rw [hg] at hhead
        cases hhead
      | some d =>
        rw [hg] at hhead
        cases hhead with
        | some hcd => exact .cons hcd ih

theorem zipIdx_rel (as : List α) (bs : List β) (n : ℕ) (h : List.Forall₂ R as bs) :
    List.Forall₂ (fun p q => R p.1 q.1 ∧ p.2 = q.2) (as.zipIdx n) (bs.zipIdx n) := by
  induction h generalizing n with
  | nil => exact .nil
  | cons hab _ ih => exact .cons ⟨hab, rfl⟩ (ih (n + 1))

theorem argmax_reverse_rel {κ : Type} [LinearOrder κ] (as : List α) (bs : List β) (f : α → κ) (g : β → κ)
    (h : List.Forall₂ R as bs) (hfg : ∀ a b, R a b → f a = g b) :
    Option.Rel R (as.reverse.argmax f) (bs.reverse.argmax g) := by
  induction h with
  | nil => exact .none
  | @cons a b as bs hab _ ih =>
    rw [List.reverse_cons, List.reverse_cons, List.argmax_concat, List.argmax_concat]
    cases hf : as.reverse.argmax f with
    | none =>
      rw [hf] at ih
      cases hg : bs.reverse.argmax g with
      | none => exact .some hab
      | some d =>
        rw [hg] at ih
        cases ih
    | some c =>
      rw [hf] at ih
      cases hg : bs.reverse.argmax g with
      | none =>
        rw [hg] at ih
        cases ih
      | some d =>
        rw [hg] at ih
        cases ih with
        | some hcd =>
          dsimp only
          rw [hfg a b hab, hfg c d hcd]
          split
          · exact .some hab
          · exact .some hcd

section Sorted

variable {κ : Type} [LinearOrder κ]

theorem destutter_sort_eq_dedup (l : List κ) :
    (l.insertionSort (· ≤ ·)).destutter (· ≠ ·) = (l.insertionSort (· ≤ ·)).dedup :=
  (List.pairwise_insertionSort (· ≤ ·) l).destutter_eq_dedup

theorem destutter_sort_congr (l l' : List κ) (h : ∀ k, k ∈ l ↔ k ∈ l') :
    (l.insertionSort (· ≤ ·)).destutter (· ≠ ·) = (l'.insertionSort (· ≤ ·)).destutter (· ≠ ·) := by
  rw [destutter_sort_eq_dedup, destutter_sort_eq_dedup]
  have hordered (l : List κ) : (l.insertionSort (· ≤ ·)).dedup.Pairwise (· ≤ ·) :=
    (List.pairwise_insertionSort (· ≤ ·) l).sublist (List.dedup_sublist _)
  have hperm := (List.perm_ext_iff_of_nodup (List.nodup_dedup (l.insertionSort (· ≤ ·)))
    (List.nodup_dedup (l'.insertionSort (· ≤ ·)))).mpr (fun k => by
      rw [List.mem_dedup, List.mem_dedup, List.mem_insertionSort, List.mem_insertionSort, h])
  exact hperm.eq_of_pairwise (fun _ _ _ _ => le_antisymm) (hordered l) (hordered l')

end Sorted

end Acdp.Foundation.Related
