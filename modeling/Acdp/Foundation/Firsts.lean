import Mathlib.Data.List.Basic
import Mathlib.Data.List.Induction

namespace Acdp.Foundation.Firsts

variable {α κ : Type} [DecidableEq κ] (key : α → κ)

def addFirst (firsts : List α) (a : α) : List α :=
  if key a ∈ firsts.map key then firsts else firsts ++ [a]

def firstsBy (l : List α) : List α := l.foldl (addFirst key) []

theorem firstsBy_concat (l : List α) (a : α) : firstsBy key (l ++ [a]) = addFirst key (firstsBy key l) a := by
  rw [firstsBy, List.foldl_append]
  rfl

theorem mem_of_mem_firstsBy (l : List α) (a : α) (h : a ∈ firstsBy key l) : a ∈ l := by
  induction l using List.reverseRecOn with
  | nil => exact h
  | append_singleton l b ih =>
    rw [firstsBy_concat, addFirst] at h
    split at h
    · exact List.mem_append_left _ (ih h)
    · rcases List.mem_append.mp h with h | h
      · exact List.mem_append_left _ (ih h)
      · exact List.mem_append_right _ h

theorem mem_keys_firstsBy (l : List α) (k : κ) : k ∈ (firstsBy key l).map key ↔ k ∈ l.map key := by
  induction l using List.reverseRecOn with
  | nil => rfl
  | append_singleton l b ih =>
    rw [firstsBy_concat, addFirst, List.map_append, List.mem_append, ← ih]
    split
    next hmem =>
      constructor
      · exact Or.inl
      · rintro (hk | hk)
        · exact hk
        · rw [List.map_singleton, List.mem_singleton] at hk
          exact hk ▸ hmem
    next => rw [List.map_append, List.mem_append]

theorem firstsBy_concat_old (l : List α) (a : α) (h : key a ∈ l.map key) :
    firstsBy key (l ++ [a]) = firstsBy key l := by
  rw [firstsBy_concat, addFirst, if_pos ((mem_keys_firstsBy key l _).mpr h)]

theorem firstsBy_concat_new (l : List α) (a : α) (h : key a ∉ l.map key) :
    firstsBy key (l ++ [a]) = firstsBy key l ++ [a] := by
  rw [firstsBy_concat, addFirst, if_neg (fun hmem => h ((mem_keys_firstsBy key l _).mp hmem))]

theorem find?_firstsBy (l : List α) (k : κ) :
    (firstsBy key l).find? (fun a => key a = k) = l.find? (fun a => key a = k) := by
  induction l using List.reverseRecOn with
  | nil => rfl
  | append_singleton l b ih =>
    rw [List.find?_append, ← ih]
    by_cases hmem : key b ∈ l.map key
    · rw [firstsBy_concat_old key l b hmem]
      by_cases hb : key b = k
      · have hsome : ((firstsBy key l).find? (fun a => key a = k)).isSome = true := by
          rw [List.find?_isSome]
          obtain ⟨a, ha, hak⟩ := List.mem_map.mp ((mem_keys_firstsBy key l _).mpr hmem)
          exact ⟨a, ha, by simpa [hak] using hb⟩
        obtain ⟨a, ha⟩ := Option.isSome_iff_exists.mp hsome
        rw [ha]
        rfl
      · simp [List.find?, hb]
    · rw [firstsBy_concat_new key l b hmem, List.find?_append]

end Acdp.Foundation.Firsts
