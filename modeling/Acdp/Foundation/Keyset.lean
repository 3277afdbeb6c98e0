import Mathlib.Data.List.Basic
import Mathlib.Order.Defs.Unbundled

namespace Acdp.Foundation.Keyset

variable {α κ π ε : Type*}

theorem filter_after_last (before : α → α → Bool) (hirrefl : ∀ a, before a a = false)
    (hasymm : ∀ a b, before a b = true → before b a = false) (l rest : List α) (a : α)
    (hsorted : (l ++ rest).Pairwise (fun x y => before x y = true)) (hlast : l.getLast? = some a) :
    (l ++ rest).filter (before a) = rest := by
  obtain ⟨hl, hr, hcross⟩ := List.pairwise_append.mp hsorted
  have hdrop : l.filter (before a) = [] := by
    rw [List.filter_eq_nil_iff]
    intro x hx
    obtain ⟨init, rfl⟩ := List.getLast?_eq_some_iff.mp hlast
    rcases List.mem_append.mp hx with hx | hx
    · have hxa := (List.pairwise_append.mp hl).2.2 x hx a (List.mem_singleton_self a)
      simp [hasymm x a hxa]
    · simp [List.mem_singleton.mp hx, hirrefl]
  have hkeep : rest.filter (before a) = rest := by
    rw [List.filter_eq_self]
    intro x hx
    exact hcross a (List.mem_of_getLast? hlast) x hx
  rw [List.filter_append, hdrop, hkeep, List.nil_append]

def follow (fetch : Option κ → Except ε π) (next : π → Option κ) :
    ℕ → Option κ → Option (Except ε (List π))
  | 0, _ => none
  | fuel + 1, cursor =>
    match fetch cursor with
    | .error e => some (.error e)
    | .ok page =>
      match next page with
      | none => some (.ok [page])
      | some c => (follow fetch next fuel (some c)).map (·.map (page :: ·))

theorem follow_complete (fetch : Option κ → Except ε π) (next : π → Option κ) (items : π → List α)
    (good : π → Prop) (limit : ℕ) (hlimit : 0 < limit) (position : Option κ → List α → Prop)
    (hfetch : ∀ cursor rest, position cursor rest → ∃ page, fetch cursor = .ok page ∧ good page ∧
      items page = rest.take limit ∧
      ((rest.length ≤ limit ∧ next page = none) ∨
        (limit < rest.length ∧ ∃ c, next page = some c ∧ position (some c) (rest.drop limit))))
    (fuel : ℕ) (cursor : Option κ) (rest : List α) (hpos : position cursor rest)
    (hfuel : rest.length < fuel) :
    ∃ pages, follow fetch next fuel cursor = some (.ok pages) ∧ pages.flatMap items = rest ∧
      (∀ page ∈ pages, good page) ∧ ∀ page ∈ pages.dropLast, (items page).length = limit := by
  induction fuel generalizing cursor rest with
  | zero => omega
  | succ fuel ih =>
    obtain ⟨page, hpage, hgood, hitems, ⟨hlen, hnext⟩ | ⟨hlen, c, hnext, hpos'⟩⟩ :=
      hfetch cursor rest hpos
    · refine ⟨[page], ?_, ?_, by simpa using hgood, by simp⟩
      · simp only [follow, hpage, hnext]
      · rw [List.flatMap_singleton, hitems, List.take_of_length_le hlen]
    · obtain ⟨pages, hfollow, hflat, hall, hfull⟩ := ih (some c) (rest.drop limit) hpos'
        (by rw [List.length_drop]; omega)
      have hne : pages ≠ [] := by
        rintro rfl
        have hnil : rest.drop limit = [] := by simpa using hflat.symm
        rw [List.drop_eq_nil_iff] at hnil
        omega
      refine ⟨page :: pages, ?_, ?_, ?_, ?_⟩
      · simp only [follow, hpage, hnext, hfollow]
        rfl
      · rw [List.flatMap_cons, hitems, hflat, List.take_append_drop]
      · intro p hp
        rcases List.mem_cons.mp hp with rfl | hp
        · exact hgood
        · exact hall p hp
      · rw [List.dropLast_cons_of_ne_nil hne]
        intro p hp
        rcases List.mem_cons.mp hp with rfl | hp
        · rw [hitems, List.length_take, Nat.min_eq_left (Nat.le_of_lt hlen)]
        · exact hfull p hp

end Acdp.Foundation.Keyset
