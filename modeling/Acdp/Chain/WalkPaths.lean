import Acdp.Chain.WalkFrontier

namespace Acdp.Chain

open Std (ExtTreeMap)
open Acdp.Foundation.Distance Acdp.Foundation.Transition

/-- The depths of a walk are the distances of its nodes from its roots. -/
def Walk.Labelled (w : Walk) : Prop := Labels w.Edge (· ∈ w.roots) (fun k : String => w.depth[k]?)

theorem labelled_walk (roots : List String) (parsed : Parsed) (limits : Limits) (stop : ℕ → Bool) :
    (walk roots parsed limits stop).Labelled := by
  obtain ⟨d, hsound⟩ := WalkState.sound_walkEnd (sorted roots) limits parsed.successors stop
  exact hsound.labels

theorem Walk.Labelled.lt_size (w : Walk) (h : w.Labelled) (k : String) (n : ℕ) (hk : w.depth[k]? = some n) :
    n < w.depth.size := by
  rw [← ExtTreeMap.length_keys]
  refine h.lt_length w.Edge (· ∈ w.roots) w.depth.keys (fun j m hj => ?_) n k hk
  exact ExtTreeMap.mem_keys.mpr ((mem_iff_get _ _).mpr ⟨m, hj⟩)

abbrev Walk.IsPath (w : Walk) (p : List String) (k : String) : Prop :=
  Acdp.Foundation.Distance.IsPath w.Edge (· ∈ w.roots) (· ∈ w.depth) p k

abbrev Walk.IsLeastPath (w : Walk) (n : ℕ) (k : String) (p : List String) : Prop :=
  Acdp.Foundation.Distance.IsLeastPath w.Edge (· ∈ w.roots) (· ∈ w.depth) n k p

namespace PathState

section Candidates

variable (w : Walk) (best : ExtTreeMap String (List String))

structure Collected (offers : List (List String × String)) (candidates : ExtTreeMap String (List String)) :
    Prop where
  offered : ∀ (u : String) (p : List String), candidates[u]? = some p →
    u ∉ best ∧ u ∈ w.depth ∧ ∃ path, (path, u) ∈ offers ∧ p = path ++ [u]
  least : ∀ (path : List String) (u : String), (path, u) ∈ offers → u ∉ best → u ∈ w.depth →
    ∃ p, candidates[u]? = some p ∧ p ≤ path ++ [u]

variable (path : List String) (candidates : ExtTreeMap String (List String)) (u : String)

theorem offer_cases :
    ((u ∈ best ∨ u ∉ w.depth) ∧ offer w best path candidates u = candidates) ∨
    (∃ existing, candidates[u]? = some existing ∧ existing ≤ path ++ [u] ∧
      offer w best path candidates u = candidates) ∨
    (u ∉ best ∧ u ∈ w.depth ∧ (∀ existing, candidates[u]? = some existing → path ++ [u] ≤ existing) ∧
      offer w best path candidates u = candidates.insert u (path ++ [u])) := by
  unfold offer
  by_cases hskip : u ∈ best ∨ u ∉ w.depth
  · exact .inl ⟨hskip, if_pos hskip⟩
  · rw [if_neg hskip]
    rw [not_or, not_not] at hskip
    cases hcandidate : candidates[u]? with
    | none => exact .inr (.inr ⟨hskip.1, hskip.2, fun _ h => (nomatch h), rfl⟩)
    | some existing =>
      by_cases hle : existing ≤ path ++ [u]
      · exact .inr (.inl ⟨existing, rfl, hle, if_pos hle⟩)
      · refine .inr (.inr ⟨hskip.1, hskip.2, fun e he => ?_, if_neg hle⟩)
        exact Option.some.inj he ▸ (not_le.mp hle).le

theorem Collected.offer (offers : List (List String × String)) (h : Collected w best offers candidates) :
    Collected w best (offers ++ [(path, u)]) (offer w best path candidates u) := by
  have hkeep : (∀ path', (path', u) = (path, u) → u ∉ best → u ∈ w.depth →
      ∃ p, candidates[u]? = some p ∧ p ≤ path' ++ [u]) →
      Collected w best (offers ++ [(path, u)]) candidates := by
    intro hnew
    refine ⟨fun k p hk => ?_, fun path' k hk => ?_⟩
    · obtain ⟨hbest, hdepth, path', hmem, hp⟩ := h.offered k p hk
      exact ⟨hbest, hdepth, path', List.mem_append_left _ hmem, hp⟩
    · rcases List.mem_append.mp hk with hk | hk
      · exact h.least path' k hk
      · have heq := List.mem_singleton.mp hk
        obtain rfl : k = u := congrArg Prod.snd heq
        exact hnew path' heq
  rcases offer_cases w best path candidates u with ⟨hskip, heq⟩ | ⟨existing, hget, hle, heq⟩ | ⟨hbest,
    hdepth, hle, heq⟩
  · rw [heq]
    exact hkeep (fun _ _ hbest hdepth => (hskip.elim hbest (absurd hdepth)).elim)
  · rw [heq]
    refine hkeep (fun path' hpath _ _ => ?_)
    obtain rfl : path' = path := congrArg Prod.fst hpath
    exact ⟨existing, hget, hle⟩
  · rw [heq]
    refine ⟨fun k p hk => ?_, fun path' k hk hnew hadmitted => ?_⟩
    · rw [get_insert] at hk
      split at hk
      next hu =>
        subst hu
        exact ⟨hbest, hdepth, path, by simp, (Option.some.inj hk).symm⟩
      next =>
        obtain ⟨hbest, hdepth, path', hmem, hp⟩ := h.offered k p hk
        exact ⟨hbest, hdepth, path', List.mem_append_left _ hmem, hp⟩
    · rw [get_insert]
      split
      next hu =>
        subst hu
        refine ⟨_, rfl, ?_⟩
        rcases List.mem_append.mp hk with hk | hk
        · obtain ⟨p, hp, hle'⟩ := h.least path' u hk hnew hadmitted
          exact (hle p hp).trans hle'
        · obtain rfl : path' = path := congrArg Prod.fst (List.mem_singleton.mp hk)
          exact le_rfl
      next hne =>
        rcases List.mem_append.mp hk with hk | hk
        · exact h.least path' k hk hnew hadmitted
        · exact absurd (congrArg Prod.snd (List.mem_singleton.mp hk)).symm hne

end Candidates

section Round

variable (w : Walk) (s : PathState)

def candidates : ExtTreeMap String (List String) :=
  s.queue.foldl (fun candidates v => (w.edges.getD v []).foldl (offer w s.best (s.best.getD v [])) candidates)
    ∅

def offers : List (List String × String) :=
  s.queue.flatMap (fun v => (w.edges.getD v []).map (fun u => (s.best.getD v [], u)))

theorem collected_candidates : Collected w s.best (s.offers w) (s.candidates w) := by
  have hflat : s.candidates w =
      (s.offers w).foldl (fun candidates o => offer w s.best o.1 candidates o.2) ∅ := by
    rw [candidates, offers, List.foldl_flatMap]
    congr 1
    funext candidates v
    rw [List.foldl_map]
  rw [hflat]
  refine foldl_invariant (fun candidates o => offer w s.best o.1 candidates o.2) (Collected w s.best)
    (fun done o candidates h => h.offer w s.best o.1 candidates o.2 done) (s.offers w) [] ∅ ?_
  refine ⟨fun u p hu => ?_, fun path u hu => (nomatch hu)⟩
  simp at hu

theorem get_foldl_insert (l : List (String × List String)) (best : ExtTreeMap String (List String))
    (hnodup : (l.map Prod.fst).Nodup) (k : String) (p : List String) :
    (l.foldl (fun best p => best.insert p.1 p.2) best)[k]? = some p ↔
      (k, p) ∈ l ∨ k ∉ l.map Prod.fst ∧ best[k]? = some p := by
  induction l generalizing best with
  | nil => simp
  | cons o l ih =>
    rw [List.map_cons, List.nodup_cons] at hnodup
    rw [List.foldl_cons, ih _ hnodup.2, get_insert, List.map_cons, List.mem_cons, List.mem_cons]
    by_cases ho : o.1 = k
    · subst ho
      have hnot : (o.1, p) ∉ l := fun hmem => hnodup.1 (List.mem_map.mpr ⟨_, hmem, rfl⟩)
      simp only [hnot, hnodup.1, if_pos, Option.some.injEq, not_false_eq_true, true_and, false_or,
        not_true_eq_false, false_and, or_false]
      exact ⟨fun h => by rw [← h], fun h => (congrArg Prod.snd h).symm⟩
    · have hne : (k, p) ≠ o := fun h => ho (congrArg Prod.fst h).symm
      simp [ho, hne, Ne.symm ho]

theorem get_best_round (k : String) (p : List String) :
    (s.round w).best[k]? = some p ↔
      (s.candidates w)[k]? = some p ∨ k ∉ s.candidates w ∧ s.best[k]? = some p := by
  change ((s.candidates w).toList.foldl (fun best p => best.insert p.1 p.2) s.best)[k]? = some p ↔ _
  have hkeys : (s.candidates w).toList.map Prod.fst = (s.candidates w).keys :=
    ExtTreeMap.map_fst_toList_eq_keys
  rw [get_foldl_insert, ExtTreeMap.mem_toList_iff_getElem?_eq_some, hkeys, ExtTreeMap.mem_keys]
  rw [hkeys]
  exact ExtTreeMap.nodup_keys

structure Reached (i : ℕ) : Prop where
  best : ∀ (k : String) (p : List String), s.best[k]? = some p →
    ∃ n ≤ i, w.depth[k]? = some n ∧ w.IsLeastPath n k p
  found : ∀ (k : String) (n : ℕ), w.depth[k]? = some n → n ≤ i → k ∈ s.best
  queue : ∀ k : String, k ∈ s.queue ↔ w.depth[k]? = some i

theorem Reached.getD (i : ℕ) (h : s.Reached w i) (k : String) (hk : w.depth[k]? = some i) :
    w.IsLeastPath i k (s.best.getD k []) := by
  obtain ⟨p, hp⟩ := (mem_iff_get _ _).mp (h.found k i hk le_rfl)
  obtain ⟨n, -, hn, hleast⟩ := h.best k p hp
  obtain rfl : n = i := Option.some.inj (hn.symm.trans hk)
  rwa [ExtTreeMap.getD_eq_getD_getElem?, hp, Option.getD_some]

theorem mem_offers_iff (path : List String) (u : String) :
    (path, u) ∈ s.offers w ↔ ∃ v ∈ s.queue, w.Edge v u ∧ path = s.best.getD v [] := by
  rw [offers, List.mem_flatMap]
  constructor
  · rintro ⟨v, hv, hmem⟩
    obtain ⟨u', hu', heq⟩ := List.mem_map.mp hmem
    obtain ⟨rfl, rfl⟩ := Prod.mk.inj heq
    exact ⟨v, hv, hu', rfl⟩
  · rintro ⟨v, hv, hedge, rfl⟩
    exact ⟨v, hv, List.mem_map.mpr ⟨u, hedge, rfl⟩⟩

theorem Reached.candidates (i : ℕ) (hw : w.Labelled) (h : s.Reached w i) :
    (∀ (k : String) (p : List String), (s.candidates w)[k]? = some p →
      w.depth[k]? = some (i + 1) ∧ w.IsLeastPath (i + 1) k p) ∧
    ∀ k : String, w.depth[k]? = some (i + 1) → k ∈ s.candidates w := by
  have hcollected := collected_candidates w s
  have hnew (k : String) (hk : w.depth[k]? = some (i + 1)) : k ∉ s.best := fun hmem => by
    obtain ⟨p, hp⟩ := (mem_iff_get _ _).mp hmem
    obtain ⟨n, hn, hdepth, -⟩ := h.best k p hp
    have := Option.some.inj (hk.symm.trans hdepth)
    omega
  refine ⟨fun k p hk => ?_, fun k hk => ?_⟩
  · obtain ⟨hbest, hdepth, path, hoffer, rfl⟩ := hcollected.offered k p hk
    obtain ⟨v, hv, hedge, rfl⟩ := (mem_offers_iff w s path k).mp hoffer
    have hvdepth := (h.queue v).mp hv
    have hkdepth : w.depth[k]? = some (i + 1) := by
      obtain ⟨m, hm⟩ := (mem_iff_get _ _).mp hdepth
      obtain ⟨n, hn, hle⟩ := hw.source v k hedge
      obtain rfl : n = i := Option.some.inj (hn.symm.trans hvdepth)
      have hle := hle m hm
      have hgt : ¬ m ≤ n := fun hle => hbest (h.found k m hm hle)
      rw [hm, show m = n + 1 by omega]
    refine ⟨hkdepth, hw.isLeastPath_concat w.Edge (· ∈ w.roots) (· ∈ w.depth)
      (fun x hx => (mem_iff_get _ _).mp hx) i k v _ hkdepth hdepth (h.getD w s i v hvdepth) hedge
      (fun z hz hzk => ?_)⟩
    refine ⟨_, h.getD w s i z hz, ?_⟩
    obtain ⟨p, hp, hle⟩ :=
      hcollected.least _ k ((mem_offers_iff w s _ k).mpr ⟨z, (h.queue z).mpr hz, hzk, rfl⟩)
        hbest hdepth
    obtain rfl := Option.some.inj (hp.symm.trans hk)
    exact hle
  · obtain ⟨v, hv, hedge⟩ := hw.parent k i hk
    obtain ⟨p, hp, -⟩ :=
      hcollected.least _ k ((mem_offers_iff w s _ k).mpr ⟨v, (h.queue v).mpr hv, hedge, rfl⟩)
        (hnew k hk) ((mem_iff_get _ _).mpr ⟨_, hk⟩)
    exact (mem_iff_get _ _).mpr ⟨p, hp⟩

theorem Reached.round (i : ℕ) (hw : w.Labelled) (h : s.Reached w i) : (s.round w).Reached w (i + 1) := by
  obtain ⟨hcandidates, hall⟩ := h.candidates w s i hw
  refine ⟨fun k p hk => ?_, fun k n hk hle => ?_, fun k => ?_⟩
  · rcases (get_best_round w s k p).mp hk with hk | ⟨-, hk⟩
    · exact ⟨i + 1, le_rfl, hcandidates k p hk⟩
    · obtain ⟨n, hn, hleast⟩ := h.best k p hk
      exact ⟨n, by omega, hleast⟩
  · rw [mem_iff_get]
    by_cases hcandidate : k ∈ s.candidates w
    · obtain ⟨p, hp⟩ := (mem_iff_get _ _).mp hcandidate
      exact ⟨p, (get_best_round w s k p).mpr (.inl hp)⟩
    · have hn : n ≤ i := by
        by_contra hgt
        exact hcandidate (hall k (by rw [hk, show n = i + 1 by omega]))
      obtain ⟨p, hp⟩ := (mem_iff_get _ _).mp (h.found k n hk hn)
      exact ⟨p, (get_best_round w s k p).mpr (.inr ⟨hcandidate, hp⟩)⟩
  · change k ∈ (s.candidates w).keys ↔ _
    rw [ExtTreeMap.mem_keys]
    refine ⟨fun hk => ?_, hall k⟩
    obtain ⟨p, hp⟩ := (mem_iff_get _ _).mp hk
    exact (hcandidates k p hp).1

end Round

section Rounds

variable (w : Walk)

structure Finished (s : PathState) : Prop where
  best : ∀ (k : String) (p : List String), s.best[k]? = some p → ∃ n, w.depth[k]? = some n ∧
    w.IsLeastPath n k p
  found : ∀ k ∈ w.depth, k ∈ s.best
  queue : s.queue = []

theorem Reached.finished (i : ℕ) (s : PathState) (hw : w.Labelled) (h : s.Reached w i) (hend : s.queue = []) :
    s.Finished w := by
  refine ⟨fun k p hk => ?_, fun k hk => ?_, hend⟩
  · obtain ⟨n, -, hn⟩ := h.best k p hk
    exact ⟨n, hn⟩
  · obtain ⟨n, hn⟩ := (mem_iff_get _ _).mp hk
    refine h.found k n hn (not_lt.mp fun hlt => ?_)
    -- a deeper node has a node of depth `i` before it
    obtain ⟨j, hj⟩ := hw.exists_of_le w.Edge (· ∈ w.roots) n k hn i hlt.le
    have := (h.queue j).mpr hj
    rw [hend] at this
    cases this

theorem finished_rounds (fuel i : ℕ) (s : PathState) (hw : w.Labelled) (h : s.Reached w i)
    (hfuel : w.depth.size ≤ i + fuel) : (rounds w fuel s).Finished w := by
  induction fuel generalizing i s with
  | zero =>
    refine h.finished w i s hw (List.eq_nil_iff_forall_not_mem.mpr fun k hk => ?_)
    have := hw.lt_size w k i ((h.queue k).mp hk)
    omega
  | succ fuel ih =>
    unfold rounds
    split
    next hend => exact h.finished w i s hw hend
    next => exact ih (i + 1) _ (h.round w s i hw) (by omega)

structure Rooted (seen : List String) (s : PathState) : Prop where
  best : ∀ (k : String) (p : List String), s.best[k]? = some p → k ∈ seen ∧ k ∈ w.depth ∧ p = [k]
  found : ∀ k ∈ seen, k ∈ w.depth → k ∈ s.best
  queue : ∀ k, k ∈ s.queue ↔ k ∈ seen ∧ k ∈ w.depth

theorem Rooted.admitRoot (seen : List String) (r : String) (s : PathState) (h : s.Rooted w seen) :
    (s.admitRoot w r).Rooted w (seen ++ [r]) := by
  unfold PathState.admitRoot
  split
  next hr =>
    refine ⟨fun k p hk => ?_, fun k hk hdepth => ?_, fun k => ?_⟩
    · dsimp only at hk
      rw [get_insert] at hk
      split at hk
      next heq =>
        subst heq
        exact ⟨by simp, hr, (Option.some.inj hk).symm⟩
      next =>
        obtain ⟨hseen, rest⟩ := h.best k p hk
        exact ⟨List.mem_append_left _ hseen, rest⟩
    · rcases List.mem_append.mp hk with hk | hk
      · exact ExtTreeMap.mem_insert.mpr (.inr (h.found k hk hdepth))
      · obtain rfl := List.mem_singleton.mp hk
        exact ExtTreeMap.mem_insert_self
    · dsimp only
      rw [List.mem_append, List.mem_append, h.queue, List.mem_singleton]
      constructor
      · rintro (⟨hk, hdepth⟩ | rfl)
        · exact ⟨.inl hk, hdepth⟩
        · exact ⟨.inr rfl, hr⟩
      · rintro ⟨hk | rfl, hdepth⟩
        · exact .inl ⟨hk, hdepth⟩
        · exact .inr rfl
  next hr =>
    refine ⟨fun k p hk => ?_, fun k hk hdepth => ?_, fun k => ?_⟩
    · obtain ⟨hseen, rest⟩ := h.best k p hk
      exact ⟨List.mem_append_left _ hseen, rest⟩
    · rcases List.mem_append.mp hk with hk | hk
      · exact h.found k hk hdepth
      · exact absurd (List.mem_singleton.mp hk ▸ hdepth) hr
    · rw [h.queue, List.mem_append, List.mem_singleton]
      constructor
      · rintro ⟨hk, hdepth⟩
        exact ⟨.inl hk, hdepth⟩
      · rintro ⟨hk | rfl, hdepth⟩
        · exact ⟨hk, hdepth⟩
        · exact absurd hdepth hr

theorem reached_roots (hw : w.Labelled) : (w.roots.foldl (PathState.admitRoot w) ⟨∅, []⟩).Reached w 0 := by
  have h : (w.roots.foldl (PathState.admitRoot w) ⟨∅, []⟩).Rooted w w.roots := by
    refine foldl_invariant (PathState.admitRoot w) (fun seen s => s.Rooted w seen)
      (fun seen r s h => h.admitRoot w seen r s) w.roots [] _ ?_
    refine ⟨fun k p hk => ?_, fun k hk => (nomatch hk), fun k => ?_⟩
    · simp at hk
    · simp
  have hroot (k : String) (hk : k ∈ w.roots) (hdepth : k ∈ w.depth) : w.depth[k]? = some 0 := by
    obtain ⟨n, hn⟩ := (mem_iff_get _ _).mp hdepth
    rw [hn, hw.origin k n hk hn]
  refine ⟨fun k p hk => ?_, fun k n hk hn => ?_, fun k => ?_⟩
  · obtain ⟨hseen, hdepth, rfl⟩ := h.best k p hk
    exact ⟨0, le_rfl, hroot k hseen hdepth, isLeastPath_singleton _ _ _ k hseen hdepth⟩
  · rw [Nat.le_zero.mp hn] at hk
    exact h.found k (hw.zero k hk) ((mem_iff_get _ _).mpr ⟨0, hk⟩)
  · rw [h.queue]
    exact ⟨fun hk => hroot k hk.1 hk.2, fun hk => ⟨hw.zero k hk, (mem_iff_get _ _).mpr ⟨0, hk⟩⟩⟩

end Rounds

end PathState

/-- The paths to the nodes of a walk, whether or not it was stopped. -/
theorem shortestPaths_least (roots : List String) (parsed : Parsed) (limits : Limits) (stop : ℕ → Bool) :
    let w := walk roots parsed limits stop
    (PathState.rounds w (w.depth.size + 1) (w.roots.foldl (PathState.admitRoot w) ⟨∅, []⟩)).queue = [] ∧
    (∀ k, k ∈ shortestPaths w ↔ k ∈ w.depth) ∧
    ∀ (k : String) (n : ℕ) (p : List String), w.depth[k]? = some n → (shortestPaths w)[k]? = some p →
      w.IsPath p k ∧ p.length = n + 1 ∧
        ∀ q, w.IsPath q k → n + 1 ≤ q.length ∧ (q.length = n + 1 → p ≤ q) := by
  intro w
  have hw : w.Labelled := labelled_walk roots parsed limits stop
  have hfinished :=
    PathState.finished_rounds w (w.depth.size + 1) 0 _ hw (PathState.reached_roots w hw) (by omega)
  refine ⟨hfinished.queue, fun k => ⟨fun hk => ?_, hfinished.found k⟩, fun k n p hk hp => ?_⟩
  · obtain ⟨p, hp⟩ := (mem_iff_get _ _).mp hk
    obtain ⟨n, hn, -⟩ := hfinished.best k p hp
    exact (mem_iff_get _ _).mpr ⟨n, hn⟩
  · obtain ⟨m, hm, hleast⟩ := hfinished.best k p hp
    obtain rfl : m = n := Option.some.inj (hm.symm.trans hk)
    refine ⟨hleast.path, hleast.length, fun q hq => ⟨?_, hleast.least q hq⟩⟩
    obtain ⟨l, hl⟩ : ∃ l, q.length = l + 1 := by
      refine Nat.exists_eq_succ_of_ne_zero (fun hzero => ?_)
      obtain ⟨r, -, hhead⟩ := hq.start
      rw [List.length_eq_zero_iff.mp hzero] at hhead
      cases hhead
    have := hw.le_of_reachIn w.Edge (· ∈ w.roots) l k (hq.reachIn _ _ _ hl) m hm
    omega

end Acdp.Chain
