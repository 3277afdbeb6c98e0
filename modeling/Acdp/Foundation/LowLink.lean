import Mathlib.Algebra.Order.Group.Nat
import Mathlib.Logic.Function.Basic
import Mathlib.Logic.Relation
import Mathlib.Order.Lattice

namespace Acdp.Foundation.LowLink

open Relation

/-- `stack` holds the visited points whose component is still open, `active` those on the path being
explored. Both have their newest point first, and `idx` numbers the points in the order of their visit. -/
structure Search (α : Type) where
  visited : α → Prop
  idx : α → ℕ
  low : α → ℕ
  stack : List α
  active : List α
  next : ℕ
  scanned : α → α → Prop

namespace Search

variable {α : Type} (edge : α → α → Prop)

def Done (s : Search α) (x : α) : Prop := s.visited x ∧ x ∉ s.stack

/-- `covered` is what the low-links are for: an open point that was seen from above the active point `q`
is not below the low-link of some active point from `q` on. -/
structure Inv (s : Search α) : Prop where
  visited : ∀ x ∈ s.stack, s.visited x
  bound : ∀ x ∈ s.stack, s.idx x < s.next
  sorted : s.stack.Pairwise (fun x y => s.idx y < s.idx x)
  activeStack : ∀ v ∈ s.active, v ∈ s.stack
  activeSorted : s.active.Pairwise (fun x y => s.idx y < s.idx x)
  source : ∀ x y, s.scanned x y → s.visited x ∧ s.visited y
  complete : ∀ x y, s.visited x → x ∉ s.active → edge x y → s.scanned x y
  closed : ∀ x y, s.Done x → edge x y → s.Done y
  reach : ∀ v ∈ s.active, ∀ x ∈ s.stack, s.idx v ≤ s.idx x → ReflTransGen edge v x
  lowLe : ∀ x ∈ s.stack, s.low x ≤ s.idx x
  lowReach : ∀ x ∈ s.stack, ∃ y ∈ s.stack, s.idx y = s.low x ∧ ReflTransGen edge x y
  lowLt : ∀ x ∈ s.stack, x ∉ s.active → s.low x < s.idx x
  covered : ∀ q ∈ s.active, ∀ x ∈ s.stack, s.idx q ≤ s.idx x → ∀ y ∈ s.stack, s.scanned x y →
    ∃ r ∈ s.active, s.idx q ≤ s.idx r ∧ s.low r ≤ s.idx y

variable {edge} {s : Search α} (h : s.Inv edge)
include h

theorem Inv.stack_eq_nil (hactive : s.active = []) : s.stack = [] := by
  have hnone : ∀ n, ∀ x ∈ s.stack, s.idx x ≠ n := by
    intro n
    induction n using Nat.strong_induction_on with
    | _ n ih =>
      intro x hx hn
      obtain ⟨y, hy, hidx, -⟩ := h.lowReach x hx
      have hlt := h.lowLt x hx (by simp [hactive])
      exact ih (s.idx y) (by omega) y hy rfl
  exact List.eq_nil_iff_forall_not_mem.mpr fun x hx => hnone _ x hx rfl

def scan (s : Search α) (v y : α) : Search α := { s with scanned := fun a b => s.scanned a b ∨ a = v ∧ b = y }

theorem Inv.scan (v y : α) (hv : v ∈ s.active) (hy : s.visited y) (hlow : y ∈ s.stack → s.low v ≤ s.idx y) :
    (s.scan v y).Inv edge := by
  refine { h with source := ?_, complete := ?_, covered := ?_ }
  · rintro a b (hab | ⟨rfl, rfl⟩)
    · exact h.source a b hab
    · exact ⟨h.visited a (h.activeStack a hv), hy⟩
  · intro a b ha hactive hedge
    exact .inl (h.complete a b ha hactive hedge)
  · rintro q hq x hx hqx z hz (hxz | ⟨rfl, rfl⟩)
    · exact h.covered q hq x hx hqx z hz hxz
    · exact ⟨x, hv, hqx, hlow hz⟩

section Lower

variable [DecidableEq α]

def lower (s : Search α) (v : α) (n : ℕ) : Search α :=
    { s with low := Function.update s.low v (min (s.low v) n) }

omit h in
theorem low_lower_le (v : α) (n : ℕ) (x : α) : (s.lower v n).low x ≤ s.low x := by
  change Function.update s.low v (min (s.low v) n) x ≤ s.low x
  by_cases hx : x = v
  · subst hx
    rw [Function.update_self]
    exact min_le_left _ _
  · rw [Function.update_of_ne hx]

theorem Inv.lower (v y : α) (hy : y ∈ s.stack) (hreach : ReflTransGen edge v y) :
    (s.lower v (s.idx y)).Inv edge := by
  refine { h with lowLe := ?_, lowReach := ?_, lowLt := ?_, covered := ?_ }
  · exact fun x hx => (low_lower_le v _ x).trans (h.lowLe x hx)
  · intro x hx
    change ∃ z ∈ s.stack, s.idx z = Function.update s.low v (min (s.low v) (s.idx y)) x ∧ _
    by_cases hxv : x = v
    · subst hxv
      rw [Function.update_self]
      rcases min_choice (s.low x) (s.idx y) with hmin | hmin
      · rw [hmin]
        exact h.lowReach x hx
      · exact ⟨y, hy, hmin.symm, hreach⟩
    · rw [Function.update_of_ne hxv]
      exact h.lowReach x hx
  · exact fun x hx hactive => (low_lower_le v _ x).trans_lt (h.lowLt x hx hactive)
  · intro q hq x hx hqx z hz hxz
    obtain ⟨r, hr, hqr, hle⟩ := h.covered q hq x hx hqx z hz hxz
    exact ⟨r, hr, hqr, (low_lower_le v _ r).trans hle⟩

def enter (s : Search α) (u : α) : Search α :=
  { s with
    visited := fun x => x = u ∨ s.visited x
    idx := Function.update s.idx u s.next
    low := Function.update s.low u s.next
    stack := u :: s.stack
    active := u :: s.active
    next := s.next + 1 }

omit h in
theorem done_enter_iff (u : α) (hu : ¬ s.visited u) (x : α) : (s.enter u).Done x ↔ s.Done x := by
  change ((x = u ∨ s.visited x) ∧ x ∉ u :: s.stack) ↔ s.visited x ∧ x ∉ s.stack
  rw [List.mem_cons, not_or]
  constructor
  · rintro ⟨rfl | hx, hne, hstack⟩
    · exact absurd rfl hne
    · exact ⟨hx, hstack⟩
  · rintro ⟨hx, hstack⟩
    exact ⟨.inr hx, fun heq => hu (heq ▸ hx), hstack⟩

theorem Inv.enter (u : α) (hu : ¬ s.visited u) (hroot : ∀ v ∈ s.active.head?, edge v u) :
    (s.enter u).Inv edge := by
  have hne (x : α) (hx : x ∈ s.stack) : x ≠ u := fun heq => hu (heq ▸ h.visited x hx)
  have hidx (x : α) (hx : x ∈ s.stack) : (s.enter u).idx x = s.idx x := Function.update_of_ne (hne x hx) _ _
  have hlow (x : α) (hx : x ∈ s.stack) : (s.enter u).low x = s.low x := Function.update_of_ne (hne x hx) _ _
  have hidxu : (s.enter u).idx u = s.next := Function.update_self _ _ _
  have hlowu : (s.enter u).low u = s.next := Function.update_self _ _ _
  have hbound : ∀ x ∈ s.stack, (s.enter u).idx x < s.next := fun x hx => (hidx x hx).symm ▸ h.bound x hx
  refine ⟨?_, ?_, ?_, ?_, ?_, ?_, ?_, ?_, ?_, ?_, ?_, ?_, ?_⟩
  · exact fun x hx => (List.mem_cons.mp hx).imp_right (h.visited x)
  · intro x hx
    change _ < s.next + 1
    rcases List.mem_cons.mp hx with rfl | hx
    · omega
    · have := hbound x hx
      omega
  · refine List.pairwise_cons.mpr ⟨fun x hx => hidxu ▸ hbound x hx,
      h.sorted.imp_of_mem fun {x y} hx hy hxy => ?_⟩
    rwa [hidx x hx, hidx y hy]
  · intro v hv
    rcases List.mem_cons.mp hv with rfl | hv
    · exact List.mem_cons_self
    · exact List.mem_cons_of_mem _ (h.activeStack v hv)
  · refine List.pairwise_cons.mpr ⟨fun x hx => hidxu ▸ hbound x (h.activeStack x hx), ?_⟩
    refine h.activeSorted.imp_of_mem fun {x y} hx hy hxy => ?_
    rwa [hidx x (h.activeStack x hx), hidx y (h.activeStack y hy)]
  · exact fun x y hxy => (h.source x y hxy).imp .inr .inr
  · rintro x y (rfl | hx) hactive hedge
    · exact absurd List.mem_cons_self hactive
    · exact h.complete x y hx (fun hmem => hactive (List.mem_cons_of_mem _ hmem)) hedge
  · intro x y hx hedge
    rw [done_enter_iff u hu] at hx ⊢
    exact h.closed x y hx hedge
  · intro v hv x hx hle
    rcases List.mem_cons.mp hx with rfl | hold
    · rcases List.mem_cons.mp hv with rfl | hv
      · exact .refl
      · -- the new point is reached through the newest active one
        cases hactive : s.active with
        | nil => simp [hactive] at hv
        | cons t rest =>
          have ht : t ∈ s.active := by simp [hactive]
          refine .tail (h.reach v hv t (h.activeStack t ht) ?_) (hroot t (by simp [hactive]))
          have hsorted := h.activeSorted
          rw [hactive, List.pairwise_cons] at hsorted
          rw [hactive, List.mem_cons] at hv
          rcases hv with rfl | hv
          · exact le_rfl
          · exact (hsorted.1 v hv).le
    · rcases List.mem_cons.mp hv with rfl | hv
      · have hlt := hbound x hold
        rw [hidxu] at hle
        omega
      · rw [hidx v (h.activeStack v hv), hidx x hold] at hle
        exact h.reach v hv x hold hle
  · intro x hx
    rcases List.mem_cons.mp hx with rfl | hx
    · rw [hlowu, hidxu]
    · rw [hlow x hx, hidx x hx]
      exact h.lowLe x hx
  · intro x hx
    rcases List.mem_cons.mp hx with rfl | hx
    · exact ⟨x, List.mem_cons_self, by rw [hlowu, hidxu], .refl⟩
    · obtain ⟨y, hy, heq, hreach⟩ := h.lowReach x hx
      exact ⟨y, List.mem_cons_of_mem _ hy, by rw [hidx y hy, hlow x hx, heq], hreach⟩
  · intro x hx hactive
    rcases List.mem_cons.mp hx with rfl | hx
    · exact absurd List.mem_cons_self hactive
    · rw [hlow x hx, hidx x hx]
      exact h.lowLt x hx (fun hmem => hactive (List.mem_cons_of_mem _ hmem))
  · intro q hq x hx hqx y hy hxy
    obtain ⟨hxv, hyv⟩ := h.source x y hxy
    have hx : x ∈ s.stack := (List.mem_cons.mp hx).resolve_left (fun heq => hu (heq ▸ hxv))
    have hy : y ∈ s.stack := (List.mem_cons.mp hy).resolve_left (fun heq => hu (heq ▸ hyv))
    have hq : q ∈ s.active := (List.mem_cons.mp hq).resolve_left (fun heq => by
      have hlt := hbound x hx
      rw [heq, hidxu] at hqx
      omega)
    rw [hidx q (h.activeStack q hq), hidx x hx] at hqx
    obtain ⟨r, hr, hqr, hle⟩ := h.covered q hq x hx hqx y hy hxy
    refine ⟨r, List.mem_cons_of_mem _ hr, ?_, ?_⟩
    · rwa [hidx q (h.activeStack q hq), hidx r (h.activeStack r hr)]
    · rwa [hlow r (h.activeStack r hr), hidx y hy]

end Lower

section Leave

variable {v : α} {rest : List α} (hactive : s.active = v :: rest) (hscanned : ∀ y, edge v y → s.scanned v y)
include hactive

theorem Inv.idx_le_of_active (r : α) (hr : r ∈ s.active) : s.idx r ≤ s.idx v ∧
    (s.idx v ≤ s.idx r → r = v) := by
  have hsorted := h.activeSorted
  rw [hactive, List.pairwise_cons] at hsorted
  rw [hactive, List.mem_cons] at hr
  rcases hr with rfl | hr
  · exact ⟨le_rfl, fun _ => rfl⟩
  · have := hsorted.1 r hr
    exact ⟨this.le, fun hle => absurd this (not_lt.mpr hle)⟩

theorem Inv.mem_stack : v ∈ s.stack := h.activeStack v (by simp [hactive])

include hscanned

theorem Inv.complete_tail (x y : α) (hx : s.visited x) (hrest : x ∉ rest) (hedge : edge x y) :
    s.scanned x y := by
  by_cases hxv : x = v
  · exact hxv ▸ hscanned y (hxv ▸ hedge)
  · refine h.complete x y hx ?_ hedge
    rw [hactive, List.mem_cons]
    exact not_or.mpr ⟨hxv, hrest⟩

def leave (s : Search α) : Search α := { s with active := s.active.tail }

theorem Inv.leave (hlow : s.low v < s.idx v) (hparent : ∀ p ∈ rest.head?, s.low p ≤ s.low v) :
    s.leave.Inv edge := by
  have htail : s.leave.active = rest := by
    change s.active.tail = rest
    rw [hactive, List.tail_cons]
  have hmem (q : α) (hq : q ∈ rest) : q ∈ s.active := by
    rw [hactive]
    exact List.mem_cons_of_mem _ hq
  have hsorted := h.activeSorted
  rw [hactive, List.pairwise_cons] at hsorted
  refine { h with
    activeStack := ?_, activeSorted := ?_, complete := ?_, reach := ?_, lowLt := ?_, covered := ?_ }
  · rw [htail]
    exact fun q hq => h.activeStack q (hmem q hq)
  · rw [htail]
    exact hsorted.2
  · rw [htail]
    exact h.complete_tail hactive hscanned
  · rw [htail]
    exact fun q hq => h.reach q (hmem q hq)
  · intro x hx hnot
    rw [htail] at hnot
    by_cases hxv : x = v
    · exact hxv ▸ hlow
    · refine h.lowLt x hx ?_
      rw [hactive, List.mem_cons]
      exact not_or.mpr ⟨hxv, hnot⟩
  · intro q hq x hx hqx y hy hxy
    rw [htail] at hq ⊢
    obtain ⟨r, hr, hqr, hle⟩ := h.covered q (hmem q hq) x hx hqx y hy hxy
    rw [hactive, List.mem_cons] at hr
    rcases hr with rfl | hr
    · -- the point that is left hands its low-link on to the one below it
      cases rest with
      | nil => cases hq
      | cons p below =>
        refine ⟨p, List.mem_cons_self, ?_, (hparent p rfl).trans hle⟩
        rcases List.mem_cons.mp hq with rfl | hq
        · exact le_rfl
        · exact ((List.pairwise_cons.mp hsorted.2).1 q hq).le
    · exact ⟨r, hr, hqr, hle⟩

variable (hlow : s.low v = s.idx v)
include hlow

theorem Inv.edge_above (x : α) (hx : x ∈ s.stack) (hle : s.idx v ≤ s.idx x) (y : α) (hedge : edge x y) :
    (y ∈ s.stack ∧ s.idx v ≤ s.idx y) ∨ s.Done y := by
  have hrest : x ∉ rest := fun hmem => by
    have hin : x ∈ s.active := by
      rw [hactive]
      exact List.mem_cons_of_mem _ hmem
    obtain rfl := (h.idx_le_of_active hactive x hin).2 hle
    have hsorted := h.activeSorted
    rw [hactive, List.pairwise_cons] at hsorted
    exact absurd (hsorted.1 x hmem) (lt_irrefl _)
  have hscan := h.complete_tail hactive hscanned x y (h.visited x hx) hrest hedge
  by_cases hy : y ∈ s.stack
  · obtain ⟨r, hr, hvr, hry⟩ := h.covered v (by simp [hactive]) x hx hle y hy hscan
    obtain rfl := (h.idx_le_of_active hactive r hr).2 hvr
    exact .inl ⟨hy, hlow ▸ hry⟩
  · exact .inr ⟨(h.source x y hscan).2, hy⟩

omit hactive hscanned hlow in
theorem Inv.done_of_reach (x y : α) (hx : s.Done x) (hreach : ReflTransGen edge x y) : s.Done y := by
  induction hreach with
  | refl => exact hx
  | tail _ hedge ih => exact h.closed _ _ ih hedge

theorem Inv.reach_above (x : α) (hx : x ∈ s.stack) (hle : s.idx v ≤ s.idx x) (y : α)
    (hreach : ReflTransGen edge x y) : (y ∈ s.stack ∧ s.idx v ≤ s.idx y) ∨ s.Done y := by
  induction hreach with
  | refl => exact .inl ⟨hx, hle⟩
  | tail _ hedge ih =>
    rcases ih with ⟨hz, hzle⟩ | hdone
    · exact h.edge_above hactive hscanned hlow _ hz hzle _ hedge
    · exact .inr (h.closed _ _ hdone hedge)

theorem Inv.reach_back (x : α) (hx : x ∈ s.stack) (hle : s.idx v ≤ s.idx x) : ReflTransGen edge x v := by
  induction hn : s.idx x using Nat.strong_induction_on generalizing x with
  | _ n ih =>
    by_cases hxv : x = v
    · rw [hxv]
    · have hnot : x ∉ s.active := fun hmem => hxv ((h.idx_le_of_active hactive x hmem).2 hle)
      have hlt := h.lowLt x hx hnot
      obtain ⟨y, hy, hidx, hreach⟩ := h.lowReach x hx
      rcases h.reach_above hactive hscanned hlow x hx hle y hreach with ⟨-, hyle⟩ | hdone
      · exact hreach.trans (ih (s.idx y) (by omega) y hy hyle rfl)
      · exact absurd hy hdone.2

theorem Inv.component_iff (x : α) :
    (x ∈ s.stack ∧ s.idx v ≤ s.idx x) ↔ ReflTransGen edge v x ∧ ReflTransGen edge x v := by
  have hv := h.mem_stack hactive
  constructor
  · rintro ⟨hx, hle⟩
    exact ⟨h.reach v (by simp [hactive]) x hx hle, h.reach_back hactive hscanned hlow x hx hle⟩
  · rintro ⟨hvx, hxv⟩
    rcases h.reach_above hactive hscanned hlow v hv le_rfl x hvx with hx | hdone
    · exact hx
    · exact absurd hv (h.done_of_reach x v hdone hxv).2

variable {above below : List α} (hstack : s.stack = above ++ v :: below)
include hstack

omit hactive hscanned hlow in
theorem Inv.mem_above_iff (x : α) : x ∈ above ++ [v] ↔ x ∈ s.stack ∧ s.idx v ≤ s.idx x := by
  have hsorted := h.sorted
  rw [hstack, List.pairwise_append, List.pairwise_cons] at hsorted
  rw [hstack, List.mem_append, List.mem_singleton, List.mem_append, List.mem_cons]
  constructor
  · rintro (hx | rfl)
    · exact ⟨.inl hx, (hsorted.2.2 x hx v List.mem_cons_self).le⟩
    · exact ⟨.inr (.inl rfl), le_rfl⟩
  · rintro ⟨hx | rfl | hx, hle⟩
    · exact .inl hx
    · exact .inr rfl
    · exact absurd (hsorted.2.1.1 x hx) (not_lt.mpr hle)

omit hactive hscanned hlow in
theorem Inv.mem_below_iff (x : α) : x ∈ below ↔ x ∈ s.stack ∧ s.idx x < s.idx v := by
  have hsorted := h.sorted
  rw [hstack, List.pairwise_append, List.pairwise_cons] at hsorted
  rw [hstack, List.mem_append, List.mem_cons]
  constructor
  · intro hx
    exact ⟨.inr (.inr hx), hsorted.2.1.1 x hx⟩
  · rintro ⟨hx | rfl | hx, hlt⟩
    · exact absurd (hsorted.2.2 x hx v List.mem_cons_self) hlt.not_gt
    · exact absurd hlt (lt_irrefl _)
    · exact hx

theorem Inv.cycle_iff (x : α) (hx : x ∈ above ++ [v]) :
    TransGen edge x x ↔ 1 < (above ++ [v]).length ∨ edge v v := by
  have hcomponent (y : α) : y ∈ above ++ [v] ↔ ReflTransGen edge v y ∧ ReflTransGen edge y v := by
    rw [h.mem_above_iff hstack, h.component_iff hactive hscanned hlow]
  have hmutual (y z : α) (hy : y ∈ above ++ [v]) (hz : z ∈ above ++ [v]) : ReflTransGen edge y z :=
    ((hcomponent y).mp hy).2.trans ((hcomponent z).mp hz).1
  have hv : v ∈ above ++ [v] := by simp
  cases habove : above with
  | nil =>
    rw [habove, List.nil_append, List.mem_singleton] at hx
    subst hx
    simp only [List.nil_append, List.length_singleton, lt_irrefl, false_or]
    refine ⟨fun hcycle => ?_, .single⟩
    obtain ⟨y, hxy, hyx⟩ := TransGen.head'_iff.mp hcycle
    have hy := (hcomponent y).mpr ⟨.single hxy, hyx⟩
    rw [habove, List.nil_append, List.mem_singleton] at hy
    rwa [hy] at hxy
  | cons a above' =>
    refine iff_of_true ?_ (.inl (by simp))
    have hne : a ≠ v := fun heq => by
      have hsorted := h.sorted
      rw [hstack, habove, heq, List.cons_append, List.pairwise_cons] at hsorted
      exact absurd (hsorted.1 v (by simp)) (lt_irrefl _)
    have ha : a ∈ above ++ [v] := by simp [habove]
    -- some other point of the component is on the way back
    obtain ⟨y, hy, hyx⟩ : ∃ y ∈ above ++ [v], y ≠ x := by
      by_cases hxa : x = a
      · exact ⟨v, hv, fun heq => hne (hxa ▸ heq.symm)⟩
      · exact ⟨a, ha, Ne.symm hxa⟩
    rcases reflTransGen_iff_eq_or_transGen.mp (hmutual x y hx hy) with heq | hxy
    · exact absurd heq hyx
    · exact hxy.trans_left (hmutual y x hy hx)

def close (s : Search α) (below : List α) : Search α := { s with stack := below, active := s.active.tail }

omit hactive hscanned hlow in
theorem Inv.done_close_iff (x : α) : (s.close below).Done x ↔ s.Done x ∨ x ∈ above ++ [v] := by
  change s.visited x ∧ x ∉ below ↔ (s.visited x ∧ x ∉ s.stack) ∨ _
  rw [h.mem_below_iff hstack, h.mem_above_iff hstack]
  constructor
  · rintro ⟨hx, hbelow⟩
    by_cases hmem : x ∈ s.stack
    · exact .inr ⟨hmem, not_lt.mp fun hlt => hbelow ⟨hmem, hlt⟩⟩
    · exact .inl ⟨hx, hmem⟩
  · rintro (⟨hx, hmem⟩ | ⟨hmem, hle⟩)
    · exact ⟨hx, fun hbelow => hmem hbelow.1⟩
    · exact ⟨h.visited x hmem, fun hbelow => absurd hbelow.2 (not_lt.mpr hle)⟩

theorem Inv.close : (s.close below).Inv edge := by
  have htail : (s.close below).active = rest := by
    change s.active.tail = rest
    rw [hactive, List.tail_cons]
  have hmem (q : α) (hq : q ∈ rest) : q ∈ s.active := by
    rw [hactive]
    exact List.mem_cons_of_mem _ hq
  have hbelow := h.mem_below_iff hstack
  have hsub (x : α) (hx : x ∈ below) : x ∈ s.stack := ((hbelow x).mp hx).1
  have hactiveSorted := h.activeSorted
  rw [hactive, List.pairwise_cons] at hactiveSorted
  have hsorted := h.sorted
  rw [hstack, List.pairwise_append, List.pairwise_cons] at hsorted
  refine ⟨fun x hx => h.visited x (hsub x hx), fun x hx => h.bound x (hsub x hx), hsorted.2.1.2, ?_,
    ?_, h.source, ?_, ?_, ?_, fun x hx => h.lowLe x (hsub x hx), ?_, ?_, ?_⟩
  · rw [htail]
    exact fun q hq => (hbelow q).mpr ⟨h.activeStack q (hmem q hq), hactiveSorted.1 q hq⟩
  · rw [htail]
    exact hactiveSorted.2
  · rw [htail]
    exact h.complete_tail hactive hscanned
  · intro x y hx hedge
    rw [h.done_close_iff hstack] at hx ⊢
    rcases hx with hx | hx
    · exact .inl (h.closed x y hx hedge)
    · rw [h.mem_above_iff hstack] at hx ⊢
      exact (h.edge_above hactive hscanned hlow x hx.1 hx.2 y hedge).symm
  · rw [htail]
    exact fun q hq x hx => h.reach q (hmem q hq) x (hsub x hx)
  · intro x hx
    obtain ⟨y, hy, hidx, hreach⟩ := h.lowReach x (hsub x hx)
    refine ⟨y, (hbelow y).mpr ⟨hy, ?_⟩, hidx, hreach⟩
    exact hidx ▸ (h.lowLe x (hsub x hx)).trans_lt ((hbelow x).mp hx).2
  · intro x hx hnot
    rw [htail] at hnot
    refine h.lowLt x (hsub x hx) ?_
    rw [hactive, List.mem_cons]
    refine not_or.mpr ⟨fun heq => ?_, hnot⟩
    exact absurd (heq ▸ ((hbelow x).mp hx).2) (lt_irrefl _)
  · intro q hq x hx hqx y hy hxy
    rw [htail] at hq ⊢
    obtain ⟨r, hr, hqr, hle⟩ := h.covered q (hmem q hq) x (hsub x hx) hqx y (hsub y hy) hxy
    rw [hactive, List.mem_cons] at hr
    rcases hr with rfl | hr
    · have := ((hbelow y).mp hy).2
      change s.low r ≤ s.idx y at hle
      omega
    · exact ⟨r, hr, hqr, hle⟩

end Leave

end Search

end Acdp.Foundation.LowLink
