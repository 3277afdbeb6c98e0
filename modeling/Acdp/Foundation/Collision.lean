import Mathlib.Data.List.Basic

namespace Acdp.Foundation

variable {α β γ : Type}

/-- Two different arguments, one from each list, with the same value. -/
def Collision (f : α → β) (xs ys : List α) : Prop := ∃ x ∈ xs, ∃ y ∈ ys, x ≠ y ∧ f x = f y

theorem Collision.mono {f : α → β} {xs ys : List α} (h : Collision f xs ys) {xs' ys' : List α}
    (hxs : xs ⊆ xs') (hys : ys ⊆ ys') : Collision f xs' ys' := by
  obtain ⟨x, hx, y, hy, hne, heq⟩ := h
  exact ⟨x, hxs hx, y, hys hy, hne, heq⟩

theorem Collision.map {f : α → β} {xs ys : List α} (h : Collision f xs ys) (g : γ → β) (encode : α → γ)
    (hinj : Function.Injective encode) (hg : ∀ x, g (encode x) = f x) :
    Collision g (xs.map encode) (ys.map encode) := by
  obtain ⟨x, hx, y, hy, hne, heq⟩ := h
  exact ⟨encode x, List.mem_map_of_mem hx, encode y, List.mem_map_of_mem hy, fun h => hne (hinj h),
    by rw [hg, hg, heq]⟩

theorem eq_or_collision {f : α → β} {x y : α} (h : f x = f y) {xs ys : List α} (hx : x ∈ xs) (hy : y ∈ ys) :
    x = y ∨ Collision f xs ys := by
  by_cases hne : x = y
  · exact .inl hne
  · exact .inr ⟨x, hx, y, hy, hne, h⟩

end Acdp.Foundation
