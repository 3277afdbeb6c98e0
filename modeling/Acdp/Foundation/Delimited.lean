import Mathlib.Data.List.Forall2
import Mathlib.Data.List.Sort

namespace Acdp.Foundation.Delimited

variable {α β σ : Type*}

/-- A code each of whose words can be read off the front of any text. -/
def SelfDelimiting (f : α → List σ) : Prop :=
  ∀ a b s t, f a ++ s = f b ++ t → a = b ∧ s = t

theorem flatMap_terminated (f : α → List σ) (stop : σ) (hf : SelfDelimiting f)
    (hhead : ∀ a, ∃ c rest, f a = c :: rest ∧ c ≠ stop) (l l' : List α) (s t : List σ)
    (h : l.flatMap f ++ stop :: s = l'.flatMap f ++ stop :: t) : l = l' ∧ s = t := by
  induction l generalizing l' with
  | nil =>
    cases l' with
    | nil => exact ⟨rfl, (List.cons.inj h).2⟩
    | cons b l' =>
      obtain ⟨c, rest, hb, hc⟩ := hhead b
      rw [List.flatMap_cons, hb] at h
      exact absurd (List.cons.inj h).1.symm hc
  | cons a l ih =>
    cases l' with
    | nil =>
      obtain ⟨c, rest, ha, hc⟩ := hhead a
      rw [List.flatMap_cons, ha] at h
      exact absurd (List.cons.inj h).1 hc
    | cons b l' =>
      rw [List.flatMap_cons, List.flatMap_cons, List.append_assoc, List.append_assoc] at h
      obtain ⟨rfl, hrest⟩ := hf a b _ _ h
      obtain ⟨rfl, rfl⟩ := ih l' hrest
      exact ⟨rfl, rfl⟩

theorem takeWhile_of_stops (p : σ → Bool) (l s : List σ) (hl : ∀ c ∈ l, p c = true)
    (hs : ∀ c ∈ s.head?, p c = false) : (l ++ s).takeWhile p = l := by
  rw [List.takeWhile_append_of_pos hl]
  cases s with
  | nil => simp
  | cons c s => simp [hs c rfl]

theorem run_delimited (p : σ → Bool) (l l' s t : List σ) (hl : ∀ c ∈ l, p c = true)
    (hl' : ∀ c ∈ l', p c = true) (hs : ∀ c ∈ s.head?, p c = false) (ht : ∀ c ∈ t.head?, p c = false)
    (h : l ++ s = l' ++ t) : l = l' ∧ s = t := by
  have hrun : l = l' := by
    rw [← takeWhile_of_stops p l s hl hs, h, takeWhile_of_stops p l' t hl' ht]
  subst hrun
  exact ⟨rfl, List.append_cancel_left h⟩

theorem forall₂_of_separated (R : α → β → Prop) (Stops : List σ → Prop) (sep close : σ) (hne : sep ≠ close)
    (hsep : ∀ s, Stops (sep :: s)) (hclose : ∀ s, Stops (close :: s))
    (xs : List (α × List σ)) (ys : List (β × List σ)) (s t : List σ)
    (hread : ∀ x ∈ xs, ∀ y ∈ ys, ∀ s t, Stops s → Stops t → x.2 ++ s = y.2 ++ t → R x.1 y.1 ∧ s = t)
    (hx : ∀ x ∈ xs, ∀ s t, x.2 ++ s ≠ close :: t) (hy : ∀ y ∈ ys, ∀ s t, y.2 ++ s ≠ close :: t)
    (h : [sep].intercalate (xs.map Prod.snd) ++ close :: s =
      [sep].intercalate (ys.map Prod.snd) ++ close :: t) :
    List.Forall₂ R (xs.map Prod.fst) (ys.map Prod.fst) ∧ s = t := by
  have hcons : ∀ (w : List σ) (ws : List (List σ)) (r : List σ),
      ∃ tail, [sep].intercalate (w :: ws) ++ close :: r = w ++ tail ∧ Stops tail ∧
        (ws = [] → tail = close :: r) ∧
        (ws ≠ [] → tail = sep :: ([sep].intercalate ws ++ close :: r)) := by
    intro w ws r
    cases ws with
    | nil => exact ⟨close :: r, by simp [List.intercalate], hclose r, fun _ => rfl, fun h => absurd rfl h⟩
    | cons v ws =>
      exact ⟨sep :: ([sep].intercalate (v :: ws) ++ close :: r), by simp [List.intercalate],
        hsep _, fun h => (List.cons_ne_nil _ _ h).elim, fun _ => rfl⟩
  induction xs generalizing ys with
  | nil =>
    cases ys with
    | nil => exact ⟨.nil, (List.cons.inj h).2⟩
    | cons y ys =>
      obtain ⟨tail, htail, -⟩ := hcons y.2 (ys.map Prod.snd) t
      rw [List.map_cons, htail] at h
      exact absurd h.symm (hy y List.mem_cons_self tail s)
  | cons x xs ih =>
    cases ys with
    | nil =>
      obtain ⟨tail, htail, -⟩ := hcons x.2 (xs.map Prod.snd) s
      rw [List.map_cons, htail] at h
      exact absurd h (hx x List.mem_cons_self tail t)
    | cons y ys =>
      obtain ⟨tail, htail, hstop, hlast, hmore⟩ := hcons x.2 (xs.map Prod.snd) s
      obtain ⟨tail', htail', hstop', hlast', hmore'⟩ := hcons y.2 (ys.map Prod.snd) t
      rw [List.map_cons, List.map_cons, htail, htail'] at h
      obtain ⟨hr, rfl⟩ := hread x List.mem_cons_self y List.mem_cons_self _ _ hstop hstop' h
      have hrest : [sep].intercalate (xs.map Prod.snd) ++ close :: s =
          [sep].intercalate (ys.map Prod.snd) ++ close :: t := by
        by_cases hxs : xs = []
        · by_cases hys : ys = []
          · subst hxs hys
            exact (hlast rfl).symm.trans (hlast' rfl)
          · rw [hlast (by simp [hxs])] at hmore'
            exact absurd (List.cons.inj (hmore' (by simp [hys]))).1.symm hne
        · by_cases hys : ys = []
          · rw [hlast' (by simp [hys])] at hmore
            exact absurd (List.cons.inj (hmore (by simp [hxs]))).1.symm hne
          · rw [hmore (by simp [hxs])] at hmore'
            exact (List.cons.inj (hmore' (by simp [hys]))).2
      obtain ⟨hall, hst⟩ := ih ys (fun x hx y hy => hread x (.tail _ hx) y (.tail _ hy))
        (fun x hx' => hx x (.tail _ hx')) (fun y hy' => hy y (.tail _ hy')) hrest
      exact ⟨.cons hr hall, hst⟩

end Acdp.Foundation.Delimited
