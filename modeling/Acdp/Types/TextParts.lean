import Acdp.Types.Text
import Mathlib.Data.List.TakeWhile

namespace Acdp.Types.Text

theorem isPrefixOf?_eq_some_iff {α : Type} [BEq α] [LawfulBEq α] (l t rest : List α) :
    l.isPrefixOf? t = some rest ↔ t = l ++ rest := by
  induction l generalizing t with
  | nil => simp [List.isPrefixOf?]
  | cons a l ih =>
    cases t with
    | nil => simp [List.isPrefixOf?]
    | cons b t =>
      rw [List.isPrefixOf?, List.cons_append, List.cons.injEq]
      split_ifs with hab
      · rw [ih, eq_of_beq hab]
        simp
      · have hne : b ≠ a := fun h => hab (by simp [h])
        simp [hne]

theorem stripPrefix_eq_some_iff (p s rest : String) : stripPrefix p s = some rest ↔ s = p ++ rest := by
  rw [stripPrefix, Option.map_eq_some_iff]
  constructor
  · rintro ⟨tail, htail, rfl⟩
    rw [← String.toList_inj, String.toList_append, String.toList_ofList]
    exact (isPrefixOf?_eq_some_iff _ _ _).mp htail
  · rintro rfl
    exact ⟨rest.toList, (isPrefixOf?_eq_some_iff _ _ _).mpr (String.toList_append ..), String.ofList_toList⟩

theorem splitOnceChar_eq_some (c : Char) (s head tail : String) (h : splitOnceChar c s = some (head, tail)) :
    s.toList = head.toList ++ c :: tail.toList ∧ c ∉ head.toList := by
  unfold splitOnceChar at h
  cases hdrop : s.toList.dropWhile (· ≠ c) with
  | nil =>
    rw [hdrop] at h
    cases h
  | cons d rest =>
    rw [hdrop] at h
    obtain ⟨rfl, rfl⟩ := Prod.mk.inj (Option.some.inj h)
    have hd : d = c := by
      have hhead := List.head?_dropWhile_not (fun x => decide (x ≠ c)) s.toList
      rw [hdrop] at hhead
      simpa using hhead
    subst hd
    constructor
    · rw [String.toList_ofList, String.toList_ofList, ← hdrop, List.takeWhile_append_dropWhile]
    · rw [String.toList_ofList]
      intro hmem
      simpa using List.mem_takeWhile_imp hmem

end Acdp.Types.Text
