import Acdp.Foundation.Distance

namespace Acdp.Foundation.Distance

variable {α : Type} (edge : α → α → Prop) (start : α → Prop)

theorem IsDistance.unique {m n : ℕ} {x : α} (hm : IsDistance edge start m x)
    (hn : IsDistance edge start n x) : m = n :=
  Nat.le_antisymm (hm.2 n hn.1) (hn.2 m hm.1)

/-- What holds when the points in `seen` have been looked at and `queue` waits, each entry with its depth. -/
structure Frontier (seen : α → Prop) (queue : List (α × ℕ)) : Prop where
  starts : ∀ x, start x → seen x
  distance : ∀ x, seen x → ∃ n, IsDistance edge start n x
  children : ∀ x n y, seen x → IsDistance edge start n x → edge x y → seen y ∨ (y, n + 1) ∈ queue
  parent : ∀ p ∈ queue, ∃ x n, seen x ∧ IsDistance edge start n x ∧ edge x p.1 ∧ p.2 = n + 1
  sorted : queue.Pairwise (fun p q => p.2 ≤ q.2 ∧ q.2 ≤ p.2 + 1)
  behind : ∀ x n, seen x → IsDistance edge start n x → ∀ p ∈ queue, n ≤ p.2

variable {seen : α → Prop} {queue : List (α × ℕ)}

theorem frontier_start (r : α) (hstart : ∀ x, start x ↔ x = r) (children : List α)
    (hchildren : ∀ y, edge r y ↔ y ∈ children) :
    Frontier edge start (fun x => x = r) (children.map (fun y => (y, 1))) := by
  have hr : IsDistance edge start 0 r := ⟨.start r ((hstart r).mpr rfl), fun m _ => Nat.zero_le m⟩
  refine ⟨fun x hx => (hstart x).mp hx, fun x hx => ⟨0, hx ▸ hr⟩, ?_, ?_, ?_, ?_⟩
  · rintro x n y rfl hn hedge
    obtain rfl := hn.unique edge start hr
    exact .inr (List.mem_map.mpr ⟨y, (hchildren y).mp hedge, rfl⟩)
  · intro p hp
    obtain ⟨y, hy, rfl⟩ := List.mem_map.mp hp
    exact ⟨r, 0, rfl, hr, (hchildren y).mpr hy, rfl⟩
  · rw [List.pairwise_map]
    exact List.pairwise_of_forall (fun _ _ => ⟨Nat.le_refl 1, Nat.le_succ 1⟩)
  · rintro x n rfl hn p -
    rw [hn.unique edge start hr]
    exact Nat.zero_le _

theorem Frontier.seen_or_queued (h : Frontier edge start seen queue) (m : ℕ) (y : α)
    (hreach : ReachIn edge start m y) : seen y ∨ ∃ p ∈ queue, p.2 ≤ m := by
  induction hreach with
  | start x hx => exact .inl (h.starts x hx)
  | step m x y hx hedge ih =>
    rcases ih with hseen | ⟨p, hp, hle⟩
    · obtain ⟨n, hn⟩ := h.distance x hseen
      have hle := hn.2 m hx
      exact (h.children x n y hseen hn hedge).imp_right (fun hmem => ⟨_, hmem, Nat.succ_le_succ hle⟩)
    · exact .inr ⟨p, hp, Nat.le_succ_of_le hle⟩

theorem Frontier.seen_of_empty (h : Frontier edge start seen []) (m : ℕ) (y : α)
    (hreach : ReachIn edge start m y) : seen y := by
  rcases h.seen_or_queued edge start m y hreach with hseen | ⟨p, hp, -⟩
  · exact hseen
  · cases hp

variable {x : α} {d : ℕ} {rest : List (α × ℕ)}

theorem Frontier.reachIn_head (h : Frontier edge start seen ((x, d) :: rest)) : ReachIn edge start d x := by
  obtain ⟨y, n, -, hn, hedge, hd⟩ := h.parent (x, d) List.mem_cons_self
  obtain rfl : d = n + 1 := hd
  exact .step n y x hn.1 hedge

theorem Frontier.isDistance_head (h : Frontier edge start seen ((x, d) :: rest)) (hnew : ¬ seen x) :
    IsDistance edge start d x := by
  refine ⟨h.reachIn_head edge start, fun m hm => ?_⟩
  rcases h.seen_or_queued edge start m x hm with hseen | ⟨p, hp, hle⟩
  · exact absurd hseen hnew
  · rcases List.mem_cons.mp hp with rfl | hp
    · exact hle
    · exact ((List.pairwise_cons.mp h.sorted).1 p hp).1.trans hle

theorem Frontier.skip (h : Frontier edge start seen ((x, d) :: rest)) (hseen : seen x) :
    Frontier edge start seen rest := by
  refine ⟨h.starts, h.distance, fun z n y hz hn hedge => ?_,
    fun p hp => h.parent p (List.mem_cons_of_mem _ hp), h.sorted.of_cons, fun z n hz hn p hp =>
      h.behind z n hz hn p (List.mem_cons_of_mem _ hp)⟩
  rcases h.children z n y hz hn hedge with hy | hmem
  · exact .inl hy
  · rcases List.mem_cons.mp hmem with heq | hmem
    · obtain ⟨rfl, -⟩ := Prod.mk.inj heq
      exact .inl hseen
    · exact .inr hmem

theorem Frontier.visit (h : Frontier edge start seen ((x, d) :: rest)) (hnew : ¬ seen x) (added : List α)
    (hadded : ∀ y ∈ added, edge x y) (hall : ∀ y, edge x y → (seen y ∨ y = x) ∨ y ∈ added) :
    Frontier edge start (fun y => seen y ∨ y = x) (rest ++ added.map (fun y => (y, d + 1))) := by
  have hd := h.isDistance_head edge start hnew
  have hsorted := List.pairwise_cons.mp h.sorted
  refine ⟨fun y hy => .inl (h.starts y hy), ?_, ?_, ?_, ?_, ?_⟩
  · rintro y (hy | rfl)
    · exact h.distance y hy
    · exact ⟨d, hd⟩
  · rintro z n y (hz | rfl) hn hedge
    · rcases h.children z n y hz hn hedge with hy | hmem
      · exact .inl (.inl hy)
      · rcases List.mem_cons.mp hmem with heq | hmem
        · exact .inl (.inr (Prod.mk.inj heq).1)
        · exact .inr (List.mem_append_left _ hmem)
    · obtain rfl := hn.unique edge start hd
      exact (hall y hedge).imp_right (fun hmem => List.mem_append_right _ (List.mem_map.mpr ⟨y, hmem, rfl⟩))
  · intro p hp
    rcases List.mem_append.mp hp with hp | hp
    · obtain ⟨z, n, hz, rest⟩ := h.parent p (List.mem_cons_of_mem _ hp)
      exact ⟨z, n, .inl hz, rest⟩
    · obtain ⟨y, hy, rfl⟩ := List.mem_map.mp hp
      exact ⟨x, d, .inr rfl, hd, hadded y hy, rfl⟩
  · refine List.pairwise_append.mpr ⟨hsorted.2, ?_, fun p hp q hq => ?_⟩
    · rw [List.pairwise_map]
      exact List.pairwise_of_forall (fun _ _ => ⟨Nat.le_refl _, Nat.le_succ _⟩)
    · obtain ⟨y, -, rfl⟩ := List.mem_map.mp hq
      have hp := hsorted.1 p hp
      exact ⟨hp.2, Nat.succ_le_succ hp.1⟩
  · rintro z n (hz | rfl) hn p hp
    · rcases List.mem_append.mp hp with hp | hp
      · exact h.behind z n hz hn p (List.mem_cons_of_mem _ hp)
      · obtain ⟨y, -, rfl⟩ := List.mem_map.mp hp
        exact Nat.le_succ_of_le (h.behind z n hz hn (x, d) List.mem_cons_self)
    · obtain rfl := hn.unique edge start hd
      rcases List.mem_append.mp hp with hp | hp
      · exact (hsorted.1 p hp).1
      · obtain ⟨y, -, rfl⟩ := List.mem_map.mp hp
        exact Nat.le_succ _

end Acdp.Foundation.Distance
