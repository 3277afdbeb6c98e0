import Acdp.Chain.WalkFrontier
import Acdp.Foundation.LowLink
import Mathlib.Algebra.BigOperators.Group.List.Basic
import Mathlib.Algebra.Order.BigOperators.Group.List

namespace Acdp.Chain

open Std (ExtTreeMap ExtTreeSet)
open Relation
open Acdp.Foundation.LowLink Acdp.Foundation.Transition

def Walk.AdmittedEdge (w : Walk) (j k : String) : Prop := w.Edge j k ∧ j ∈ w.depth ∧ k ∈ w.depth

namespace TarjanState

variable (w : Walk) (s : TarjanState)

def Scanned (x y : String) : Prop :=
  x ∈ s.index ∧ w.AdmittedEdge x y ∧ ∀ p ∈ s.call, p.1 = x → y ∈ (w.edges.getD x []).take p.2

def view : Search String where
  visited x := x ∈ s.index
  idx x := s.index.getD x 0
  low x := s.low.getD x 0
  stack := s.stack
  active := s.call.map Prod.fst
  next := s.next
  scanned := s.Scanned w

structure Valid : Prop where
  inv : (s.view w).Inv w.AdmittedEdge
  onStack : ∀ x, x ∈ s.onStack ↔ x ∈ s.stack
  admitted : ∀ x ∈ s.index, x ∈ w.depth
  out : ∀ x, x ∈ s.out ↔ (s.view w).Done x ∧ TransGen w.AdmittedEdge x x

theorem view_lower (v : String) (n : ℕ) : (s.lower v n).view w = (s.view w).lower v n := by
  have hlow : (fun x => (s.lower v n).low.getD x 0) =
      Function.update (fun x => s.low.getD x 0) v (min (s.low.getD v 0) n) := by
    funext x
    change (s.low.insert v _).getD x 0 = _
    rw [getD_insert, Function.update_apply]
    simp only [eq_comm]
  rw [view, hlow]
  rfl

theorem view_enter (u : String) (hu : u ∉ s.index) : (s.enter u).view w = (s.view w).enter u := by
  have hinsert (m : ExtTreeMap String ℕ) :
      (fun x => (m.insert u s.next).getD x 0) = Function.update (fun x => m.getD x 0) u s.next := by
    funext x
    rw [getD_insert, Function.update_apply]
    simp only [eq_comm]
  have hvisited : (fun x => x ∈ (s.enter u).index) = fun x => x = u ∨ x ∈ s.index := by
    funext x
    change (x ∈ s.index.insert u s.next) = _
    rw [ExtTreeMap.mem_insert, Std.LawfulEqCmp.compare_eq_iff_eq, eq_comm (a := u)]
  have hscanned : (s.enter u).Scanned w = s.Scanned w := by
    funext x y
    change (x ∈ (s.enter u).index ∧ w.AdmittedEdge x y ∧ ∀ p ∈ (u, 0) :: s.call, _) = _
    rw [congrFun hvisited x, List.forall_mem_cons, List.take_zero]
    refine propext ⟨?_, ?_⟩
    · rintro ⟨rfl | hx, hedge, hfirst, hrest⟩
      · exact absurd (hfirst rfl) List.not_mem_nil
      · exact ⟨hx, hedge, hrest⟩
    · rintro ⟨hx, hedge, hrest⟩
      exact ⟨.inr hx, hedge, fun heq => absurd ((show u = x from heq) ▸ hx) hu, hrest⟩
  change Search.mk (fun x => x ∈ (s.enter u).index) (fun x => (s.index.insert u s.next).getD x 0)
    (fun x => (s.low.insert u s.next).getD x 0) _ _ _ ((s.enter u).Scanned w) = _
  rw [hvisited, hinsert, hinsert, hscanned]
  rfl

def advance (v : String) (pos : ℕ) (rest : List (String × ℕ)) : TarjanState :=
  { s with call := (v, pos + 1) :: rest }

def back (rest : List (String × ℕ)) : TarjanState := { s with call := rest }

def handOn (v : String) (rest : List (String × ℕ)) : TarjanState :=
  match rest with
  | [] => s
  | (parent, _) :: _ => s.lower parent (s.low.getD v 0)

theorem Valid.of_inv (h : s.Valid w) (s' : TarjanState) (hinv : (s'.view w).Inv w.AdmittedEdge)
    (hindex : s'.index = s.index) (hstack : s'.stack = s.stack) (honStack : s'.onStack = s.onStack)
    (hout : s'.out = s.out) : s'.Valid w := by
  refine ⟨hinv, ?_, ?_, fun x => ?_⟩
  · rw [honStack, hstack]
    exact h.onStack
  · rw [hindex]
    exact h.admitted
  · rw [hout, h.out]
    change ((x ∈ s.index ∧ x ∉ s.stack) ∧ _) ↔ (x ∈ s'.index ∧ x ∉ s'.stack) ∧ _
    rw [hindex, hstack]

theorem Valid.enter (h : s.Valid w) (u : String) (hdepth : u ∈ w.depth) (hindex : u ∉ s.index)
    (call : List (String × ℕ))
    (hinv : ((({ s with call := call } : TarjanState).enter u).view w).Inv w.AdmittedEdge) :
    (({ s with call := call } : TarjanState).enter u).Valid w := by
  refine ⟨hinv, fun x => ?_, fun x hx => ?_, fun x => ?_⟩
  · change x ∈ s.onStack.insert u ↔ x ∈ u :: s.stack
    rw [ExtTreeSet.mem_insert, Std.LawfulEqCmp.compare_eq_iff_eq, List.mem_cons, h.onStack, eq_comm]
  · change x ∈ s.index.insert u s.next at hx
    rw [ExtTreeMap.mem_insert, Std.LawfulEqCmp.compare_eq_iff_eq] at hx
    exact hx.elim (fun heq => heq ▸ hdepth) (h.admitted x)
  · change x ∈ s.out ↔ ((s.enter u).view w).Done x ∧ _
    rw [view_enter w s u hindex, Search.done_enter_iff u hindex]
    exact h.out x

section Frame

variable (v : String) (pos : ℕ) (rest : List (String × ℕ)) (hcall : s.call = (v, pos) :: rest) (h : s.Valid w)

include hcall

theorem scanned_iff (x y : String) : s.Scanned w x y ↔ (s.back rest).Scanned w x y ∧
    (v = x → y ∈ (w.edges.getD x []).take pos) := by
  rw [Scanned, Scanned, hcall, List.forall_mem_cons]
  change _ ↔ (x ∈ s.index ∧ _ ∧ ∀ p ∈ rest, _) ∧ _
  tauto

theorem view_back (hend : (w.edges.getD v [])[pos]? = none) : (s.back rest).view w = (s.view w).leave := by
  have hscanned : (s.back rest).Scanned w = s.Scanned w := by
    funext x y
    refine propext ⟨fun hxy => (scanned_iff w s v pos rest hcall x y).mpr ⟨hxy, ?_⟩,
      fun hxy => ((scanned_iff w s v pos rest hcall x y).mp hxy).1⟩
    rintro rfl
    rw [List.take_of_length_le (List.getElem?_eq_none_iff.mp hend)]
    exact hxy.2.1.1
  rw [view, hscanned, view, Search.leave, hcall]
  rfl

include h

theorem Valid.mem_index : v ∈ s.index ∧ v ∈ s.stack ∧ v ∉ rest.map Prod.fst := by
  have hactive : (s.view w).active = v :: rest.map Prod.fst := by
    rw [view, hcall]
    rfl
  have hstack := h.inv.mem_stack hactive
  refine ⟨h.inv.visited v hstack, hstack, fun hmem => ?_⟩
  have hsorted := h.inv.activeSorted
  rw [hactive, List.pairwise_cons] at hsorted
  exact absurd (hsorted.1 v hmem) (lt_irrefl _)

theorem scanned_advance (u : String) (hu : (w.edges.getD v [])[pos]? = some u) (x y : String) :
    (s.advance v pos rest).Scanned w x y ↔ s.Scanned w x y ∨ (x = v ∧ y = u) ∧ u ∈ w.depth := by
  obtain ⟨hv, -, hrest⟩ := h.mem_index w s v pos rest hcall
  rw [scanned_iff w (s.advance v pos rest) v (pos + 1) rest rfl, scanned_iff w s v pos rest hcall,
    List.take_add_one]
  change (s.back rest).Scanned w x y ∧ _ ↔ _
  constructor
  · rintro ⟨hback, htake⟩
    by_cases hx : v = x
    · subst hx
      rcases List.mem_append.mp (htake rfl) with hy | hy
      · exact .inl ⟨hback, fun _ => hy⟩
      · rw [hu, Option.toList_some, List.mem_singleton] at hy
        exact .inr ⟨⟨rfl, hy⟩, hy ▸ hback.2.1.2.2⟩
    · exact .inl ⟨hback, fun heq => absurd heq hx⟩
  · rintro (⟨hback, htake⟩ | ⟨⟨rfl, rfl⟩, hdepth⟩)
    · exact ⟨hback, fun heq => List.mem_append_left _ (htake heq)⟩
    · refine ⟨⟨hv, ⟨List.mem_of_getElem? hu, h.admitted x hv, hdepth⟩, fun p hp heq => ?_⟩,
        fun _ => by simp [hu]⟩
      exact absurd (List.mem_map.mpr ⟨p, hp, heq⟩) hrest

theorem view_advance (u : String) (hu : (w.edges.getD v [])[pos]? = some u) (hdepth : u ∈ w.depth) :
    (s.advance v pos rest).view w = (s.view w).scan v u := by
  have hscanned : (s.advance v pos rest).Scanned w = fun x y => s.Scanned w x y ∨ x = v ∧ y = u := by
    funext x y
    rw [scanned_advance w s v pos rest hcall h u hu, and_iff_left hdepth]
  rw [view, hscanned, view, Search.scan, hcall]
  rfl

theorem view_advance_outside (u : String) (hu : (w.edges.getD v [])[pos]? = some u) (hdepth : u ∉ w.depth) :
    (s.advance v pos rest).view w = s.view w := by
  have hscanned : (s.advance v pos rest).Scanned w = s.Scanned w := by
    funext x y
    rw [scanned_advance w s v pos rest hcall h u hu]
    exact propext (or_iff_left fun hnot => hdepth hnot.2)
  rw [view, hscanned, view, hcall]
  rfl

omit h in
theorem step_cases :
    (∃ u, (w.edges.getD v [])[pos]? = some u ∧ u ∉ w.depth ∧ s.step w = s.advance v pos rest) ∨
    (∃ u, (w.edges.getD v [])[pos]? = some u ∧ u ∈ w.depth ∧ u ∉ s.index ∧
      s.step w = (s.advance v pos rest).enter u) ∨
    (∃ u, (w.edges.getD v [])[pos]? = some u ∧ u ∈ w.depth ∧ u ∈ s.index ∧ u ∈ s.onStack ∧
      s.step w = (s.advance v pos rest).lower v (s.index.getD u 0)) ∨
    (∃ u, (w.edges.getD v [])[pos]? = some u ∧ u ∈ w.depth ∧ u ∈ s.index ∧ u ∉ s.onStack ∧
      s.step w = s.advance v pos rest) ∨
    ((w.edges.getD v [])[pos]? = none ∧ s.step w =
      if (s.handOn v rest).low.getD v 0 = s.index.getD v 0 then ((s.handOn v rest).back rest).popComponent w v
      else (s.handOn v rest).back rest) := by
  cases hu : (w.edges.getD v [])[pos]? with
  | none =>
    refine .inr (.inr (.inr (.inr ⟨rfl, ?_⟩)))
    rw [step, hcall]
    simp only [hu]
    cases rest <;> rfl
  | some u =>
    have hstep : s.step w = if u ∉ w.depth then s.advance v pos rest
        else if u ∉ s.index then (s.advance v pos rest).enter u
        else if u ∈ s.onStack then (s.advance v pos rest).lower v (s.index.getD u 0)
        else s.advance v pos rest := by
      rw [step, hcall]
      simp only [hu]
      rfl
    by_cases hdepth : u ∈ w.depth
    · rw [if_neg (not_not.mpr hdepth)] at hstep
      by_cases hindex : u ∈ s.index
      · rw [if_neg (not_not.mpr hindex)] at hstep
        by_cases hstack : u ∈ s.onStack
        · rw [if_pos hstack] at hstep
          exact .inr (.inr (.inl ⟨u, rfl, hdepth, hindex, hstack, hstep⟩))
        · rw [if_neg hstack] at hstep
          exact .inr (.inr (.inr (.inl ⟨u, rfl, hdepth, hindex, hstack, hstep⟩)))
      · rw [if_pos hindex] at hstep
        exact .inr (.inl ⟨u, rfl, hdepth, hindex, hstep⟩)
    · rw [if_pos hdepth] at hstep
      exact .inl ⟨u, rfl, hdepth, hstep⟩

theorem Valid.handOn : (s.handOn v rest).Valid w ∧ (s.handOn v rest).call = s.call ∧
    (s.handOn v rest).index = s.index ∧ (s.handOn v rest).low.getD v 0 = s.low.getD v 0 ∧
    ∀ p ∈ (rest.map Prod.fst).head?, (s.handOn v rest).low.getD p 0 ≤ s.low.getD v 0 := by
  obtain ⟨-, hstack, hrest⟩ := h.mem_index w s v pos rest hcall
  cases rest with
  | nil => exact ⟨h, rfl, rfl, rfl, fun p hp => (nomatch hp)⟩
  | cons frame below =>
    obtain ⟨parent, ppos⟩ := frame
    have hactive : (s.view w).active = v :: parent :: below.map Prod.fst := by
      rw [view, hcall]
      rfl
    have hparent : parent ∈ (s.view w).active := by simp [hactive]
    have hle := (h.inv.idx_le_of_active hactive parent hparent).1
    obtain ⟨y, hy, hidx, hreach⟩ := h.inv.lowReach v hstack
    have hinv := h.inv.lower parent y hy ((h.inv.reach parent hparent v hstack hle).trans hreach)
    rw [hidx] at hinv
    refine ⟨h.of_inv w s (s.lower parent (s.low.getD v 0)) ?_ rfl rfl rfl rfl, rfl, rfl, ?_, ?_⟩
    · rw [view_lower]
      exact hinv
    · change (s.low.insert parent _).getD v 0 = _
      rw [getD_insert, if_neg]
      rintro rfl
      exact hrest (by simp)
    · intro p hp
      obtain rfl : parent = p := Option.some.inj hp
      change (s.low.insert parent _).getD parent 0 ≤ _
      rw [getD_insert, if_pos rfl]
      exact min_le_right _ _

end Frame

theorem append_dropWhile_ne (l : List String) (v : String) (hv : v ∈ l) :
    l = l.takeWhile (· ≠ v) ++ v :: (l.dropWhile (· ≠ v)).tail := by
  induction l with
  | nil => cases hv
  | cons a l ih =>
    by_cases ha : a = v
    · simp [ha]
    · have hrest := ih ((List.mem_cons.mp hv).resolve_left (Ne.symm ha))
      rw [List.takeWhile_cons_of_pos (by simpa using ha), List.dropWhile_cons_of_pos (by simpa using ha),
        List.cons_append, ← hrest]

theorem mem_foldl_erase (l : List String) (t : ExtTreeSet String) (x : String) :
    x ∈ l.foldl (·.erase ·) t ↔ x ∈ t ∧ x ∉ l := by
  induction l generalizing t with
  | nil => simp
  | cons a l ih =>
    rw [List.foldl_cons, ih, ExtTreeSet.mem_erase, ne_eq, Std.LawfulEqCmp.compare_eq_iff_eq,
      List.mem_cons, eq_comm]
    tauto

theorem mem_foldl_insert (l : List String) (t : ExtTreeSet String) (x : String) :
    x ∈ l.foldl (·.insert ·) t ↔ x ∈ t ∨ x ∈ l := by
  induction l generalizing t with
  | nil => simp
  | cons a l ih =>
    rw [List.foldl_cons, ih, ExtTreeSet.mem_insert, Std.LawfulEqCmp.compare_eq_iff_eq, List.mem_cons, eq_comm]
    tauto

section Close

variable (v : String) (pos : ℕ) (rest : List (String × ℕ)) (hcall : s.call = (v, pos) :: rest) (h : s.Valid w)
  (hend : (w.edges.getD v [])[pos]? = none)
include hcall h hend

theorem Valid.scanned (y : String) (hedge : w.AdmittedEdge v y) : s.Scanned w v y := by
  obtain ⟨hv, -, hrest⟩ := h.mem_index w s v pos rest hcall
  rw [scanned_iff w s v pos rest hcall]
  refine ⟨⟨hv, hedge, fun p hp heq => absurd (List.mem_map.mpr ⟨p, hp, heq⟩) hrest⟩, fun _ => ?_⟩
  rw [List.take_of_length_le (List.getElem?_eq_none_iff.mp hend)]
  exact hedge.1

theorem Valid.popComponent (hlow : s.low.getD v 0 = s.index.getD v 0) :
    ((s.back rest).popComponent w v).Valid w := by
  obtain ⟨hv, hmem, -⟩ := h.mem_index w s v pos rest hcall
  have hactive : (s.view w).active = v :: rest.map Prod.fst := by
    rw [view, hcall]
    rfl
  have hscanned := h.scanned w s v pos rest hcall hend
  have hstack := append_dropWhile_ne s.stack v hmem
  have hview : ((s.back rest).popComponent w v).view w =
      (s.view w).close (s.stack.dropWhile (· ≠ v)).tail := by
    have hback := view_back w s v pos rest hcall hend
    change { (s.back rest).view w with stack := (s.stack.dropWhile (· ≠ v)).tail } = _
    rw [hback]
    rfl
  have hself : w.AdmittedEdge v v ↔ v ∈ w.edges.getD v [] :=
    ⟨fun hedge => hedge.1, fun hedge => ⟨hedge, h.admitted v hv, h.admitted v hv⟩⟩
  refine ⟨?_, fun x => ?_, h.admitted, fun x => ?_⟩
  · rw [hview]
    exact h.inv.close hactive hscanned hlow hstack
  · change x ∈ (s.stack.takeWhile (· ≠ v) ++ [v]).foldl (·.erase ·) s.onStack ↔
      x ∈ (s.stack.dropWhile (· ≠ v)).tail
    rw [mem_foldl_erase, h.onStack, h.inv.mem_above_iff hstack, h.inv.mem_below_iff hstack]
    exact ⟨fun hx => ⟨hx.1, not_le.mp fun hle => hx.2 ⟨hx.1, hle⟩⟩,
      fun hx => ⟨hx.1, fun hle => absurd hx.2 (not_lt.mpr hle.2)⟩⟩
  · rw [hview, h.inv.done_close_iff hstack, or_and_right, ← h.out]
    have hcycle := h.inv.cycle_iff hactive hscanned hlow hstack x
    change x ∈ (if 1 < (s.stack.takeWhile (· ≠ v) ++ [v]).length ∨ v ∈ w.edges.getD v [] then
      (s.stack.takeWhile (· ≠ v) ++ [v]).foldl (·.insert ·) s.out else s.out) ↔ _
    rw [hself] at hcycle
    split
    next hmany =>
      rw [mem_foldl_insert]
      exact or_congr_right ⟨fun hx => ⟨hx, (hcycle hx).mpr hmany⟩, fun hx => hx.1⟩
    next hsingle => exact (or_iff_left fun hx => hsingle ((hcycle hx.1).mp hx.2)).symm

end Close

theorem Valid.step (h : s.Valid w) : (s.step w).Valid w := by
  cases hcall : s.call with
  | nil =>
    rw [TarjanState.step, hcall]
    exact h
  | cons frame rest =>
    obtain ⟨v, pos⟩ := frame
    obtain ⟨hv, hstack, -⟩ := h.mem_index w s v pos rest hcall
    have hactive : v ∈ (s.view w).active := by simp [view, hcall]
    rcases step_cases w s v pos rest hcall with ⟨u, hu, hdepth, heq⟩ | ⟨u, hu, hdepth, hindex, heq⟩ |
      ⟨u, hu, hdepth, hindex, hon, heq⟩ | ⟨u, hu, hdepth, hindex, hon, heq⟩ | ⟨hend, heq⟩
    · rw [heq]
      refine h.of_inv w s _ ?_ rfl rfl rfl rfl
      rw [view_advance_outside w s v pos rest hcall h u hu hdepth]
      exact h.inv
    · -- a node seen for the first time
      have hedge : w.AdmittedEdge v u := ⟨List.mem_of_getElem? hu, h.admitted v hv, hdepth⟩
      have hview : ((s.advance v pos rest).enter u).view w = ((s.view w).enter u).scan v u := by
        rw [view_enter w (s.advance v pos rest) u hindex, view_advance w s v pos rest hcall h u hu hdepth]
        rfl
      have hentered := h.inv.enter u hindex (fun x hx => by
        rw [view, hcall] at hx
        exact Option.some.inj hx ▸ hedge)
      rw [heq]
      refine h.enter w s u hdepth hindex ((v, pos + 1) :: rest) ?_
      change (((s.advance v pos rest).enter u).view w).Inv _
      rw [hview]
      refine hentered.scan v u (List.mem_cons_of_mem _ hactive) (.inl rfl) (fun _ => ?_)
      have hle := hentered.lowLe v (List.mem_cons_of_mem _ hstack)
      have hlt := (List.pairwise_cons.mp hentered.sorted).1 v hstack
      exact hle.trans hlt.le
    · -- a node of an open component
      have hopen := (h.onStack u).mp hon
      have hedge : w.AdmittedEdge v u := ⟨List.mem_of_getElem? hu, h.admitted v hv, hdepth⟩
      rw [heq]
      refine h.of_inv w s _ ?_ rfl rfl rfl rfl
      rw [view_lower, view_advance w s v pos rest hcall h u hu hdepth]
      have hlowered := h.inv.lower v u hopen (.single hedge)
      refine hlowered.scan v u hactive hindex (fun _ => ?_)
      change Function.update (s.view w).low v (min _ ((s.view w).idx u)) v ≤ (s.view w).idx u
      rw [Function.update_self]
      exact min_le_right _ _
    · rw [heq]
      refine h.of_inv w s _ ?_ rfl rfl rfl rfl
      rw [view_advance w s v pos rest hcall h u hu hdepth]
      exact h.inv.scan v u hactive hindex (fun hopen => absurd ((h.onStack u).mpr hopen) hon)
    · obtain ⟨hvalid, hcall', hindex, hlow, hparent⟩ := h.handOn w s v pos rest hcall
      rw [hcall] at hcall'
      rw [heq]
      split
      next hroot => exact hvalid.popComponent w _ v pos rest hcall' hend (hroot.trans (by rw [hindex]))
      next hroot =>
        refine hvalid.of_inv w _ _ ?_ rfl rfl rfl rfl
        rw [view_back w _ v pos rest hcall' hend]
        have hactive' : ((s.handOn v rest).view w).active = v :: rest.map Prod.fst := by
          rw [view, hcall']
          rfl
        refine hvalid.inv.leave hactive' (hvalid.scanned w _ v pos rest hcall' hend) ?_ (fun p hp => ?_)
        · refine lt_of_le_of_ne (hvalid.inv.lowLe v (hvalid.inv.mem_stack hactive')) (fun hne => hroot ?_)
          rw [← hindex]
          exact hne
        · exact (hparent p hp).trans hlow.ge

section Fuel

def fanout (k : String) : ℕ := (w.edges.getD k []).length

def work : ℕ :=
  (s.call.map (fun p => fanout w p.1 - p.2 + 1)).sum +
    ((w.depth.keys.filter (· ∉ s.index)).map (fun k => fanout w k + 1)).sum

theorem work_enter (u : String) (hdepth : u ∈ w.depth) (hindex : u ∉ s.index) :
    (s.enter u).work w = s.work w := by
  have hfilter : w.depth.keys.filter (· ∉ (s.enter u).index) =
      (w.depth.keys.filter (· ∉ s.index)).erase u := by
    rw [(List.Nodup.filter _ ExtTreeMap.nodup_keys).erase_eq_filter, List.filter_filter]
    refine List.filter_congr (fun k _ => ?_)
    change decide (k ∉ s.index.insert u s.next) = _
    rw [Bool.eq_iff_iff]
    simp [ExtTreeMap.mem_insert, eq_comm (a := u)]
  have hmem : u ∈ w.depth.keys.filter (· ∉ s.index) :=
    List.mem_filter.mpr ⟨ExtTreeMap.mem_keys.mpr hdepth, by simpa using hindex⟩
  have hsum := List.sum_map_erase (fun k => fanout w k + 1) hmem
  rw [work, work, hfilter, ← hsum]
  change (((u, 0) :: s.call).map _).sum + _ = _
  rw [List.map_cons, List.sum_cons, Nat.sub_zero]
  dsimp only
  omega

theorem work_step (h : s.call ≠ []) : (s.step w).work w + 1 = s.work w := by
  obtain ⟨⟨v, pos⟩, rest, hcall⟩ := List.exists_cons_of_ne_nil h
  have hwork : s.work w = (fanout w v - pos + 1) + ((s.back rest).work w) := by
    rw [work, hcall, List.map_cons, List.sum_cons, work, add_assoc]
    rfl
  have hadvance (u : String) (hu : (w.edges.getD v [])[pos]? = some u) :
      (s.advance v pos rest).work w + 1 = s.work w := by
    have hpos : pos < fanout w v := (List.getElem?_eq_some_iff.mp hu).1
    have hadvanced : (s.advance v pos rest).work w = (fanout w v - (pos + 1) + 1) + (s.back rest).work w := by
      rw [work, work, ← add_assoc]
      rfl
    omega
  rcases step_cases w s v pos rest hcall with ⟨u, hu, -, heq⟩ | ⟨u, hu, hdepth, hindex, heq⟩ |
    ⟨u, hu, -, -, -, heq⟩ | ⟨u, hu, -, -, -, heq⟩ | ⟨hend, heq⟩
  · rw [heq]
    exact hadvance u hu
  · rw [heq, work_enter w (s.advance v pos rest) u hdepth hindex]
    exact hadvance u hu
  · rw [heq]
    exact hadvance u hu
  · rw [heq]
    exact hadvance u hu
  · have hpos : fanout w v ≤ pos := List.getElem?_eq_none_iff.mp hend
    have hback : (s.step w).work w = (s.back rest).work w := by
      rw [heq]
      split <;> (cases rest <;> rfl)
    omega

theorem mem_index_step (k : String) (hk : k ∈ s.index) : k ∈ (s.step w).index := by
  cases hcall : s.call with
  | nil =>
    rw [step, hcall]
    exact hk
  | cons frame rest =>
    obtain ⟨v, pos⟩ := frame
    rcases step_cases w s v pos rest hcall with ⟨u, -, -, heq⟩ | ⟨u, -, -, -, heq⟩ | ⟨u, -, -, -, -, heq⟩ |
      ⟨u, -, -, -, -, heq⟩ | ⟨-, heq⟩
    · rw [heq]
      exact hk
    · rw [heq]
      exact ExtTreeMap.mem_insert.mpr (.inr hk)
    · rw [heq]
      exact hk
    · rw [heq]
      exact hk
    · have hindex : (s.step w).index = s.index := by
        rw [heq]
        split <;> (cases rest <;> rfl)
      rwa [hindex]

theorem Valid.drain (fuel : ℕ) (h : s.Valid w) (hfuel : s.work w ≤ fuel) :
    (drain w fuel s).Valid w ∧ (drain w fuel s).call = [] ∧ ∀ k ∈ s.index, k ∈ (drain w fuel s).index := by
  induction fuel generalizing s with
  | zero =>
    refine ⟨h, ?_, fun k hk => hk⟩
    by_contra hne
    have := work_step w s hne
    omega
  | succ fuel ih =>
    unfold TarjanState.drain
    split
    next hend => exact ⟨h, hend, fun k hk => hk⟩
    next hne =>
      have hstep := work_step w s hne
      obtain ⟨hvalid, hcall, hindex⟩ := ih (s.step w) (h.step w s) (by omega)
      exact ⟨hvalid, hcall, fun k hk => hindex k (mem_index_step w s k hk)⟩

theorem sum_length_getD_le (m : ExtTreeMap String (List String)) (l : List String) (hl : l.Nodup) :
    (l.map (fun k => (m.getD k []).length)).sum ≤ (m.toList.map (·.2.length)).sum := by
  have hfilter : (l.map (fun k => (m.getD k []).length)).sum =
      ((l.filter (· ∈ m)).map (fun k => (m.getD k []).length)).sum := by
    clear hl
    induction l with
    | nil => rfl
    | cons k l ih =>
      by_cases hk : k ∈ m
      · rw [List.filter_cons_of_pos (by simpa using hk), List.map_cons, List.map_cons, List.sum_cons,
          List.sum_cons, ih]
      · rw [List.filter_cons_of_neg (by simpa using hk), List.map_cons, List.sum_cons, ih,
          ExtTreeMap.getD_eq_fallback hk]
        simp
  have hsub : (l.filter (· ∈ m)).map (fun k => (k, m.getD k [])) ⊆ m.toList := by
    intro p hp
    obtain ⟨k, hk, rfl⟩ := List.mem_map.mp hp
    obtain ⟨v, hv⟩ := (mem_iff_get m k).mp (by simpa using (List.mem_filter.mp hk).2)
    rw [ExtTreeMap.mem_toList_iff_getElem?_eq_some, ExtTreeMap.getD_eq_getD_getElem?, hv, Option.getD_some]
  have hnodup : ((l.filter (· ∈ m)).map (fun k => (k, m.getD k []))).Nodup :=
    (hl.filter _).map_on (fun _ _ _ _ heq => congrArg Prod.fst heq)
  obtain ⟨l', hperm, hsublist⟩ := List.subperm_of_subset hnodup hsub
  have hle := (hsublist.map (·.2.length)).sum_le_sum (fun _ _ => Nat.zero_le _)
  rw [(hperm.map (·.2.length)).sum_eq, List.map_map] at hle
  rw [hfilter]
  exact hle

theorem work_le_fuel (hcall : s.call = []) : s.work w ≤ fuel w := by
  have hle := ((List.filter_sublist (l := w.depth.keys) (p := (· ∉ s.index))).map
    (fun k => fanout w k + 1)).sum_le_sum (fun _ _ => Nat.zero_le _)
  have hedges := sum_length_getD_le w.edges w.depth.keys ExtTreeMap.nodup_keys
  have hsum : (w.depth.keys.map (fun k => fanout w k + 1)).sum =
      (w.depth.keys.map (fun k => (w.edges.getD k []).length)).sum + w.depth.size := by
    rw [List.sum_map_add]
    congr 1
    simp
  rw [work, hcall, fuel]
  simp only [List.map_nil, List.sum_nil, zero_add]
  omega

end Fuel

structure Idle (seen : List String) : Prop where
  valid : s.Valid w
  call : s.call = []
  seen : ∀ k ∈ seen, k ∈ s.index

theorem Idle.start (seen : List String) (v : String) (hdepth : v ∈ w.depth) (h : s.Idle w seen) :
    (s.start w v).Idle w (seen ++ [v]) := by
  have hseen (s' : TarjanState) (hold : ∀ k ∈ s.index, k ∈ s'.index) (hv : v ∈ s'.index) (k : String)
      (hk : k ∈ seen ++ [v]) : k ∈ s'.index := by
    rcases List.mem_append.mp hk with hk | hk
    · exact hold k (h.seen k hk)
    · exact List.mem_singleton.mp hk ▸ hv
  unfold TarjanState.start
  split
  next hindex => exact ⟨h.valid, h.call, hseen s (fun _ hk => hk) hindex⟩
  next hindex =>
    have hentered : (s.enter v).Valid w := by
      refine h.valid.enter w s v hdepth hindex s.call ?_
      rw [view_enter w s v hindex]
      refine h.valid.inv.enter v hindex (fun x hx => ?_)
      rw [view, h.call] at hx
      cases hx
    have hwork : (s.enter v).work w ≤ TarjanState.fuel w := by
      rw [work_enter w s v hdepth hindex]
      exact work_le_fuel w s h.call
    obtain ⟨hvalid, hcall, hindex'⟩ := hentered.drain w _ _ hwork
    refine ⟨hvalid, hcall, hseen _ (fun k hk => hindex' k (ExtTreeMap.mem_insert.mpr (.inr hk))) ?_⟩
    exact hindex' v ExtTreeMap.mem_insert_self

theorem idle_initial : Idle w ⟨∅, ∅, ∅, [], 0, ∅, []⟩ [] := by
  have hnone (x : String) (hx : x ∈ (∅ : ExtTreeMap String ℕ)) : False := by simp at hx
  have hempty (x : String) (hx : x ∈ ([] : List String)) : False := List.not_mem_nil hx
  refine ⟨⟨⟨?_, ?_, .nil, ?_, .nil, ?_, ?_, ?_, ?_, ?_, ?_, ?_, ?_⟩, ?_, ?_, ?_⟩, rfl, ?_⟩
  · exact fun x hx => (hempty x hx).elim
  · exact fun x hx => (hempty x hx).elim
  · exact fun x hx => (hempty x hx).elim
  · exact fun x y hxy => (hnone x hxy.1).elim
  · exact fun x y hx => (hnone x hx).elim
  · exact fun x y hx => (hnone x hx.1).elim
  · exact fun x hx => (hempty x hx).elim
  · exact fun x hx => (hempty x hx).elim
  · exact fun x hx => (hempty x hx).elim
  · exact fun x hx => (hempty x hx).elim
  · exact fun x hx => (hempty x hx).elim
  · intro x
    simp
  · exact fun x hx => (hnone x hx).elim
  · intro x
    refine ⟨fun hx => ?_, fun hx => (hnone x hx.1.1).elim⟩
    simp at hx
  · exact fun x hx => (hempty x hx).elim

theorem idle_foldl (seen : List String) (hseen : ∀ k ∈ seen, k ∈ w.depth) :
    (seen.foldl (TarjanState.start w) ⟨∅, ∅, ∅, [], 0, ∅, []⟩).Idle w seen := by
  have h := foldl_invariant (TarjanState.start w) (fun seen s => (∀ k ∈ seen, k ∈ w.depth) → s.Idle w seen)
    (fun done v s h hall => ?_) seen [] _ (fun _ => idle_initial w)
  · exact h hseen
  · exact (h (fun k hk => hall k (List.mem_append_left _ hk))).start w s done v (hall v (by simp))

end TarjanState

/-- The nodes of the walk that lie on a cycle; the first part says that each search ends by itself. -/
theorem cycleNodes_exact (w : Walk) :
    (∀ seen, seen <+: w.depth.keys → (seen.foldl (TarjanState.start w) ⟨∅, ∅, ∅, [], 0, ∅, []⟩).call = []) ∧
    ∀ k, k ∈ cycleNodes w ↔ k ∈ w.depth ∧ TransGen w.AdmittedEdge k k := by
  refine ⟨fun seen hseen => ?_, fun k => ?_⟩
  · exact (TarjanState.idle_foldl w seen (fun k hk => ExtTreeMap.mem_keys.mp (hseen.subset hk))).call
  · have h := TarjanState.idle_foldl w w.depth.keys (fun k hk => ExtTreeMap.mem_keys.mp hk)
    have hstack := h.valid.inv.stack_eq_nil (by rw [TarjanState.view, h.call]; rfl)
    rw [cycleNodes, h.valid.out]
    refine and_congr_left' ⟨fun hdone => h.valid.admitted k hdone.1, fun hk => ⟨?_, ?_⟩⟩
    · exact h.seen k (ExtTreeMap.mem_keys.mpr hk)
    · rw [hstack]
      exact List.not_mem_nil

end Acdp.Chain
