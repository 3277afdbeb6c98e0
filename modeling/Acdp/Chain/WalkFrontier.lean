import Acdp.Chain.WalkDepth

namespace Acdp.Chain

open Std (ExtTreeMap ExtTreeSet)
open Acdp.Foundation.Distance Acdp.Foundation.Transition

namespace WalkState

structure Accounted (s : WalkState) : Prop where
  refused : ∀ e ∈ s.referenced, e ∈ s.depth ∨ e ∈ s.fired.map Prod.fst
  known : ∀ e ∈ s.fired.map Prod.fst, e ∈ s.referenced

section Expand

variable (limits : Limits) (d : ℕ) (node : String) (s : WalkState)

structure Followed (l : List String) (i : ℕ) (s' : WalkState) : Prop where
  referenced : ∀ e, e ∈ s'.referenced ↔ e ∈ s.referenced ∨ e ∈ l
  edges : ∀ k : String, s'.edges.getD k [] =
    if k = node then s.edges.getD k [] ++ l.take (limits.maxFanout - i) else s.edges.getD k []
  timeout : s'.timeout = s.timeout

theorem followed_one (p : String × ℕ) : s.Followed limits node [p.1] p.2 (s.follow limits d node p) := by
  have hreferenced : (s.follow limits d node p).referenced = s.referenced.insert p.1 ∧
      (s.follow limits d node p).timeout = s.timeout := by
    rcases follow_cases limits d node s p with ⟨-, heq⟩ | ⟨-, -, heq⟩ | ⟨-, -, -, heq⟩ | ⟨-, -, -, heq⟩ <;>
      (rw [heq]; exact ⟨rfl, rfl⟩)
  refine ⟨fun e => ?_, fun k => ?_, hreferenced.2⟩
  · rw [hreferenced.1, ExtTreeSet.mem_insert, Std.LawfulEqCmp.compare_eq_iff_eq, List.mem_singleton,
      or_comm, eq_comm]
  · have hrecord (hp : p.2 < limits.maxFanout) (s' : WalkState) (hs' : s'.edges = (s.record node p.1).edges) :
        s'.edges.getD k [] =
          if k = node then s.edges.getD k [] ++ [p.1].take (limits.maxFanout - p.2) else
            s.edges.getD k [] := by
      rw [hs', List.take_of_length_le (by simp; omega), record]
      dsimp only
      rw [getD_insert]
      simp only [eq_comm]
      split
      next heq => rw [heq]
      next => rfl
    rcases follow_cases limits d node s p with ⟨hp, heq⟩ | ⟨hp, -, heq⟩ | ⟨hp, -, -, heq⟩ | ⟨hp, -, -, heq⟩
    · rw [heq, Nat.sub_eq_zero_of_le hp, List.take_zero, List.append_nil, ite_self]
    · exact hrecord hp _ (by rw [heq])
    · exact hrecord hp _ (by rw [heq])
    · exact hrecord hp _ (by rw [heq]; rfl)

theorem Accounted.refer (h : s.Accounted) (s' : WalkState) (e : String) (hdepth : ∀ k ∈ s.depth, k ∈ s'.depth)
    (hreferenced : s'.referenced = s.referenced.insert e)
    (hfired : s'.fired = s.fired ∧ e ∈ s'.depth ∨ ∃ c, s'.fired = s.fired ++ [(e, c)]) : s'.Accounted := by
  have hmem (x : String) : x ∈ s'.fired.map Prod.fst → x ∈ s.fired.map Prod.fst ∨ x = e := by
    rcases hfired with ⟨hsame, -⟩ | ⟨c, happend⟩
    · rw [hsame]
      exact .inl
    · rw [happend, List.map_append, List.mem_append]
      exact Or.imp_right (by simp)
  have hold (x : String) (hx : x ∈ s.fired.map Prod.fst) : x ∈ s'.fired.map Prod.fst := by
    rcases hfired with ⟨hsame, -⟩ | ⟨c, happend⟩
    · rwa [hsame]
    · rw [happend, List.map_append]
      exact List.mem_append_left _ hx
  refine ⟨fun x hx => ?_, fun x hx => ?_⟩
  · rw [hreferenced, ExtTreeSet.mem_insert, Std.LawfulEqCmp.compare_eq_iff_eq] at hx
    rcases hx with rfl | hx
    · rcases hfired with ⟨-, hin⟩ | ⟨c, happend⟩
      · exact .inl hin
      · exact .inr (by rw [happend]; simp)
    · exact (h.refused x hx).imp (hdepth x) (hold x)
  · rw [hreferenced, ExtTreeSet.mem_insert, Std.LawfulEqCmp.compare_eq_iff_eq]
    rcases hmem x hx with hx | rfl
    · exact .inr (h.known x hx)
    · exact .inl rfl

theorem Accounted.follow (h : s.Accounted) (p : String × ℕ) : (s.follow limits d node p).Accounted := by
  rcases follow_cases limits d node s p with ⟨-, heq⟩ | ⟨-, hseen, heq⟩ | ⟨-, -, -, heq⟩ | ⟨-, -, -, heq⟩
  · rw [heq]
    exact h.refer s _ p.1 (fun _ hk => hk) rfl (.inr ⟨_, rfl⟩)
  · rw [heq]
    exact h.refer s _ p.1 (fun _ hk => hk) rfl (.inl ⟨rfl, hseen⟩)
  · rw [heq]
    exact h.refer s _ p.1 (fun _ hk => hk) rfl (.inr ⟨_, rfl⟩)
  · rw [heq]
    exact h.refer s _ p.1 (fun k hk => ExtTreeMap.mem_insert.mpr (.inr hk)) rfl
      (.inl ⟨rfl, ExtTreeMap.mem_insert_self⟩)

theorem Followed.nil (i : ℕ) : s.Followed limits node [] i s :=
  ⟨fun e => by simp, fun k => by simp, rfl⟩

theorem Followed.cons (e : String) (l : List String) (i : ℕ) (s' s'' : WalkState)
    (h : s.Followed limits node [e] i s') (h' : s'.Followed limits node l (i + 1) s'') :
    s.Followed limits node (e :: l) i s'' := by
  refine ⟨fun x => ?_, fun k => ?_, h'.timeout.trans h.timeout⟩
  · rw [h'.referenced, h.referenced, List.mem_singleton, List.mem_cons, or_assoc]
  · rw [h'.edges, h.edges]
    split
    · rw [List.append_assoc]
      congr 1
      cases hroom : limits.maxFanout - i with
      | zero => simp [show limits.maxFanout - (i + 1) = 0 by omega]
      | succ n => simp [show limits.maxFanout - (i + 1) = n by omega]
    · rfl

theorem followed_foldl (l : List String) (i : ℕ) (h : s.Accounted) :
    s.Followed limits node l i ((l.zipIdx i).foldl (follow limits d node) s) ∧
      ((l.zipIdx i).foldl (follow limits d node) s).Accounted := by
  induction l generalizing i s with
  | nil => exact ⟨.nil limits node s i, h⟩
  | cons e l ih =>
    rw [List.zipIdx_cons, List.foldl_cons]
    obtain ⟨hfollowed, haccounted⟩ :=
      ih (s.follow limits d node (e, i)) (i + 1) (h.follow limits d node s (e, i))
    exact ⟨.cons limits node s e l i _ _ (followed_one limits d node s (e, i)) hfollowed, haccounted⟩

structure Skipped (l : List String) (s' : WalkState) : Prop where
  referenced : ∀ e, e ∈ s'.referenced ↔ e ∈ s.referenced ∨ e ∈ l
  edges : s'.edges = s.edges
  timeout : s'.timeout = s.timeout
  accounted : s'.Accounted

theorem skipped_foldl (l : List String) (h : s.Accounted) : s.Skipped l (l.foldl tooDeep s) := by
  induction l generalizing s with
  | nil => exact ⟨fun e => by simp, rfl, rfl, h⟩
  | cons e l ih =>
    have hone : (s.tooDeep e).Accounted := h.refer s _ e (fun _ hk => hk) rfl (.inr ⟨_, rfl⟩)
    have hrest := ih (s.tooDeep e) hone
    refine ⟨fun x => ?_, hrest.edges, hrest.timeout, hrest.accounted⟩
    rw [List.foldl_cons, hrest.referenced, List.mem_cons]
    change x ∈ s.referenced.insert e ∨ _ ↔ _
    rw [ExtTreeSet.mem_insert, Std.LawfulEqCmp.compare_eq_iff_eq, eq_comm, or_comm (a := x = e), or_assoc]

def recorded (derivedFrom : List String) : List String :=
  if d < limits.maxDepth then derivedFrom.eraseDups.take limits.maxFanout else []

structure Expanded (derivedFrom : List String) (s' : WalkState) : Prop where
  referenced : ∀ e, e ∈ s'.referenced ↔ e ∈ s.referenced ∨ e ∈ derivedFrom
  edges : ∀ k : String, s'.edges.getD k [] =
    if k = node then s.edges.getD k [] ++ recorded limits d derivedFrom else s.edges.getD k []
  timeout : s'.timeout = s.timeout
  accounted : s'.Accounted

theorem expanded_expand (derivedFrom : List String) (h : s.Accounted) :
    s.Expanded limits d node derivedFrom (s.expand limits d node derivedFrom) := by
  unfold expand
  dsimp only
  split
  next hd =>
    have hskipped := skipped_foldl s derivedFrom.eraseDups h
    refine ⟨fun e => ?_, fun k => ?_, hskipped.timeout, hskipped.accounted⟩
    · rw [hskipped.referenced, List.mem_eraseDups]
    · rw [hskipped.edges, recorded, if_neg (not_lt.mpr hd), List.append_nil, ite_self]
  next hd =>
    obtain ⟨hfollowed, haccounted⟩ := followed_foldl limits d node s derivedFrom.eraseDups 0 h
    refine ⟨fun e => ?_, fun k => ?_, hfollowed.timeout, haccounted⟩
    · rw [hfollowed.referenced, List.mem_eraseDups]
    · rw [hfollowed.edges, recorded, if_pos (not_le.mp hd), Nat.sub_zero]

end Expand

section Covered

variable (roots : List String) (successors : String → Option (List String)) (limits : Limits)

structure Covered (done : String → Prop) (s : WalkState) : Prop where
  inside : ∀ k, done k → k ∈ s.depth
  referenced : ∀ e, e ∈ s.referenced ↔
    e ∈ roots ∨ ∃ k derivedFrom, done k ∧ successors k = some derivedFrom ∧ e ∈ derivedFrom
  edges : ∀ (k : String) (n : ℕ), done k → s.depth[k]? = some n →
    s.edges.getD k [] = recorded limits n ((successors k).getD [])
  fresh : ∀ k, ¬ done k → s.edges.getD k [] = []
  running : s.timeout = false
  accounted : s.Accounted

theorem Covered.visit (d : ℕ) (node : String) (done : String → Prop) (s : WalkState)
    (h : s.Covered roots successors limits done) (hnode : s.depth[node]? = some d) (hnew : ¬ done node)
    (hgrows : Grows d s (s.visit successors limits (fun _ => false) d node)) :
    (s.visit successors limits (fun _ => false) d node).Covered roots successors limits
      (fun k => done k ∨ k = node) := by
  have hinside (k : String) (hk : done k ∨ k = node) :
      k ∈ (s.visit successors limits (fun _ => false) d node).depth := by
    have hmem : k ∈ s.depth := by
      rcases hk with hk | rfl
      · exact h.inside k hk
      · exact (mem_iff_get _ _).mpr ⟨d, hnode⟩
    obtain ⟨n, hn⟩ := (mem_iff_get _ _).mp hmem
    exact (mem_iff_get _ _).mpr ⟨n, hgrows.keeps k n hn⟩
  have hdepth (k : String) (n : ℕ) (hk : done k ∨ k = node)
      (hn : (s.visit successors limits (fun _ => false) d node).depth[k]? = some n) :
      s.depth[k]? = some n := by
    have hmem : k ∈ s.depth := by
      rcases hk with hk | rfl
      · exact h.inside k hk
      · exact (mem_iff_get _ _).mpr ⟨d, hnode⟩
    obtain ⟨m, hm⟩ := (mem_iff_get _ _).mp hmem
    rw [hm, ← hgrows.keeps k m hm, hn]
  cases hsuccessors : successors node with
  | none =>
    have hvisit : s.visit successors limits (fun _ => false) d node = { s with polls := s.polls + 1 } := by
      rw [WalkState.visit, h.running, hsuccessors]
      rfl
    rw [hvisit] at hinside hdepth ⊢
    refine ⟨hinside, fun e => ?_, fun k n hk hn => ?_,
      fun k hk => h.fresh k (fun hd => hk (.inl hd)), h.running, ⟨h.accounted.refused, h.accounted.known⟩⟩
    · rw [h.referenced e]
      refine or_congr_right ⟨?_, ?_⟩
      · rintro ⟨k, derivedFrom, hk, rest⟩
        exact ⟨k, derivedFrom, .inl hk, rest⟩
      · rintro ⟨k, derivedFrom, hk | rfl, hsome, he⟩
        · exact ⟨k, derivedFrom, hk, hsome, he⟩
        · rw [hsuccessors] at hsome
          cases hsome
    · rcases hk with hk | rfl
      · exact h.edges k n hk hn
      · change s.edges.getD k [] = _
        rw [h.fresh k hnew, hsuccessors, recorded]
        simp
  | some derivedFrom =>
    have hvisit : s.visit successors limits (fun _ => false) d node =
        expand limits d node derivedFrom { s with polls := s.polls + 1 } := by
      rw [WalkState.visit, h.running, hsuccessors]
      rfl
    have hexpanded := expanded_expand limits d node { s with polls := s.polls + 1 } derivedFrom
      ⟨h.accounted.refused, h.accounted.known⟩
    rw [← hvisit] at hexpanded
    refine ⟨hinside, fun e => ?_, fun k n hk hn => ?_, fun k hk => ?_, hexpanded.timeout.trans h.running,
      hexpanded.accounted⟩
    · rw [hexpanded.referenced]
      change e ∈ s.referenced ∨ _ ↔ _
      rw [h.referenced e, or_assoc]
      refine or_congr_right ⟨?_, ?_⟩
      · rintro (⟨k, df, hk, rest⟩ | he)
        · exact ⟨k, df, .inl hk, rest⟩
        · exact ⟨node, derivedFrom, .inr rfl, hsuccessors, he⟩
      · rintro ⟨k, df, hk | rfl, hsome, he⟩
        · exact .inl ⟨k, df, hk, hsome, he⟩
        · rw [hsuccessors] at hsome
          obtain rfl := Option.some.inj hsome
          exact .inr he
    · have hn' := hdepth k n hk hn
      rw [hexpanded.edges]
      change (if k = node then s.edges.getD k [] ++ _ else s.edges.getD k []) = _
      split
      next heq =>
        subst heq
        obtain rfl : d = n := Option.some.inj (hnode.symm.trans hn')
        rw [h.fresh k hnew, List.nil_append, hsuccessors, Option.getD_some]
      next hne => exact h.edges k n (hk.resolve_right hne) hn'
    · rw [not_or] at hk
      rw [hexpanded.edges, if_neg hk.2]
      exact h.fresh k hk.1

theorem covered_level (d : ℕ) (level : List String) (done : String → Prop) (s : WalkState)
    (hsound : s.Sound roots limits d) (h : s.Covered roots successors limits done) (hnodup : level.Nodup)
    (hlevel : ∀ k ∈ level, s.depth[k]? = some d ∧ ¬ done k) :
    (level.foldl (visit successors limits (fun _ => false) d) s).Covered roots successors limits
      (fun k => done k ∨ k ∈ level) := by
  induction level generalizing done s with
  | nil => simpa using h
  | cons node level ih =>
    rw [List.nodup_cons] at hnodup
    rw [List.forall_mem_cons] at hlevel
    obtain ⟨hsound', hgrows⟩ :=
      soundAfter_visit roots successors limits (fun _ => false) d node s hsound hlevel.1.1
    have hcovered := h.visit roots successors limits d node done s hlevel.1.1 hlevel.1.2 hgrows
    have hrest := ih (fun k => done k ∨ k = node) _ hsound' hcovered hnodup.2 (fun k hk => ?_)
    · simpa only [List.foldl_cons, List.mem_cons, or_assoc] using hrest
    · refine ⟨hgrows.keeps k d (hlevel.2 k hk).1, ?_⟩
      rintro (hdone | rfl)
      · exact (hlevel.2 k hk).2 hdone
      · exact hnodup.1 hk

theorem Covered.finish (d : ℕ) (s : WalkState)
    (h : s.Covered roots successors limits (fun k => ∃ n < d, s.depth[k]? = some n))
    (hlt : ∀ (k : String) (n : ℕ), s.depth[k]? = some n → n < d) :
    s.Covered roots successors limits (fun k => k ∈ s.depth) := by
  have hall : (fun k => k ∈ s.depth) = fun k : String => ∃ n < d, s.depth[k]? = some n := by
    funext k
    rw [mem_iff_get]
    exact propext ⟨fun ⟨n, hn⟩ => ⟨n, hlt k n hn, hn⟩, fun ⟨n, _, hn⟩ => ⟨n, hn⟩⟩
  rw [hall]
  exact h

theorem covered_levels (fuel d : ℕ) (level : List String) (s : WalkState)
    (hfuel : limits.maxDepth + 2 ≤ d + fuel)
    (hsound : ({ s with next := [] } : WalkState).Sound roots limits d) (hnodup : level.Nodup)
    (hlevel : ∀ k : String, k ∈ level ↔ s.depth[k]? = some d)
    (h : s.Covered roots successors limits (fun k => ∃ n < d, s.depth[k]? = some n)) :
    (levels successors limits (fun _ => false) fuel d level s).Covered roots successors limits
      (fun k => k ∈ (levels successors limits (fun _ => false) fuel d level s).depth) := by
  induction fuel generalizing d level s with
  | zero =>
    refine h.finish roots successors limits d s (fun k n hn => ?_)
    have := (hsound.bound k n hn).2
    omega
  | succ fuel ih =>
    unfold levels
    split
    next hend =>
      have hempty : level = [] := hend.resolve_right (by rw [h.running]; decide)
      refine h.finish roots successors limits d s (fun k n hn => ?_)
      have hle := (hsound.bound k n hn).1
      have hnext : n ≠ d + 1 := fun heq => List.not_mem_nil ((hsound.next k).mpr (heq ▸ hn))
      have hhere : n ≠ d := fun heq => by
        have := (hlevel k).mpr (heq ▸ hn)
        rw [hempty] at this
        cases this
      omega
    next =>
      have hcovered : ({ s with next := [] } : WalkState).Covered roots successors limits
          (fun k => ∃ n < d, s.depth[k]? = some n) :=
        ⟨h.inside, h.referenced, h.edges, h.fresh, h.running, ⟨h.accounted.refused, h.accounted.known⟩⟩
      obtain ⟨hsound', hgrows⟩ := soundAfter_level roots successors limits (fun _ => false) d level _ hsound
        (fun k hk => (hlevel k).mp hk)
      have hlevelled :=
        covered_level roots successors limits d level _ _ hsound hcovered hnodup (fun k hk => by
        refine ⟨(hlevel k).mp hk, ?_⟩
        rintro ⟨n, hn, hget⟩
        have := Option.some.inj (((hlevel k).mp hk).symm.trans hget)
        omega)
      obtain ⟨hnext, -⟩ := hsound'.nextLevel roots limits d
      refine ih (d + 1) _ _ (by omega) hnext ?_ ?_ ?_
      · exact (List.perm_insertionSort _ _).nodup_iff.mpr hsound'.nodup
      · intro k
        rw [List.mem_insertionSort]
        exact hsound'.next k
      · have hdone : (fun k : String => ∃ n < d + 1,
            (level.foldl (visit successors limits (fun _ => false) d) { s with next := [] }).depth[k]? =
            some n) =
              fun k => (∃ n < d, s.depth[k]? = some n) ∨ k ∈ level := by
          funext k
          refine propext ⟨?_, ?_⟩
          · rintro ⟨n, hn, hget⟩
            rcases hgrows.fresh k n hget with hold | heq
            · by_cases hd : n = d
              · exact .inr ((hlevel k).mpr (hd ▸ hold))
              · exact .inl ⟨n, by omega, hold⟩
            · omega
          · rintro (⟨n, hn, hget⟩ | hk)
            · exact ⟨n, by omega, hgrows.keeps k n hget⟩
            · exact ⟨d, by omega, hgrows.keeps k d ((hlevel k).mp hk)⟩
        rw [hdone]
        exact hlevelled

structure RootsSeen (seen : List String) (s : WalkState) : Prop where
  referenced : ∀ e, e ∈ s.referenced ↔ e ∈ seen
  running : s.timeout = false
  accounted : s.Accounted

theorem RootsSeen.admitRoot (seen : List String) (r : String) (s : WalkState) (h : s.RootsSeen seen) :
    (s.admitRoot limits r).RootsSeen (seen ++ [r]) := by
  have hreferenced (s' : WalkState) (hs' : s'.referenced = s.referenced.insert r) (e : String) :
      e ∈ s'.referenced ↔ e ∈ seen ++ [r] := by
    rw [hs', ExtTreeSet.mem_insert, Std.LawfulEqCmp.compare_eq_iff_eq, h.referenced, List.mem_append,
      List.mem_singleton, or_comm, eq_comm]
  unfold WalkState.admitRoot
  split
  · exact ⟨hreferenced _ rfl, h.running,
      h.accounted.refer s _ r (fun k hk => ExtTreeMap.mem_insert.mpr (.inr hk)) rfl
      (.inl ⟨rfl, ExtTreeMap.mem_insert_self⟩)⟩
  · exact ⟨hreferenced _ rfl, h.running, h.accounted.refer s _ r (fun _ hk => hk) rfl (.inr ⟨_, rfl⟩)⟩

theorem rootsSeen_walkStart : (walkStart roots limits).RootsSeen roots := by
  refine foldl_invariant (WalkState.admitRoot limits) (fun seen s => s.RootsSeen seen)
    (fun seen r s h => h.admitRoot limits seen r s) roots [] _ ?_
  refine ⟨fun e => ?_, rfl, fun e he => ?_, fun e he => (nomatch he)⟩
  · simp
  · simp at he

theorem covered_walkEnd : (walkEnd roots limits successors (fun _ => false)).Covered roots successors limits
    (fun k => k ∈ (walkEnd roots limits successors (fun _ => false)).depth) := by
  have hrooted := rooted_walkStart roots limits
  have hseen := rootsSeen_walkStart roots limits
  refine covered_levels roots successors limits _ 0 _ _ (by omega) ?_ ExtTreeMap.nodup_keys ?_ ?_
  · exact (sound_walkStart roots limits).of_eq roots limits 0 _ _ rfl rfl hrooted.next.symm
  · intro k
    rw [ExtTreeMap.mem_keys, mem_iff_get]
    constructor
    · rintro ⟨n, hn⟩
      rw [hn, (hrooted.zero k n hn).1]
    · exact fun hk => ⟨0, hk⟩
  · refine ⟨?_, fun e => ?_, ?_, fun k _ => ?_, hseen.running, hseen.accounted⟩
    · rintro k ⟨n, hn, -⟩
      exact absurd hn (Nat.not_lt_zero n)
    · rw [hseen.referenced]
      simp
    · rintro k n ⟨m, hm, -⟩
      exact absurd hm (Nat.not_lt_zero m)
    · rw [hrooted.edges]
      simp

end Covered

end WalkState

section Correct

theorem sorted_eq_dedup (v : List String) : sorted v = (v.insertionSort (· ≤ ·)).dedup :=
  (List.pairwise_insertionSort (· ≤ ·) v).destutter_eq_dedup

theorem mem_sorted_iff (v : List String) (k : String) : k ∈ sorted v ↔ k ∈ v := by
  rw [sorted_eq_dedup, List.mem_dedup, List.mem_insertionSort]

theorem sorted_congr (v v' : List String) (h : ∀ k, k ∈ v ↔ k ∈ v') : sorted v = sorted v' := by
  have hsorted (v : List String) : (sorted v).Nodup ∧ (sorted v).Pairwise (· ≤ ·) := by
    rw [sorted_eq_dedup]
    exact ⟨List.nodup_dedup _, (List.pairwise_insertionSort (· ≤ ·) v).sublist (List.dedup_sublist _)⟩
  have hperm := (List.perm_ext_iff_of_nodup (hsorted v).1 (hsorted v').1).mpr (fun k => by
    rw [mem_sorted_iff, mem_sorted_iff, h])
  exact hperm.eq_of_pairwise (fun _ _ _ _ => le_antisymm) (hsorted v).2 (hsorted v').2

def Walk.Edge (w : Walk) (j k : String) : Prop := k ∈ w.edges.getD j []

def Walk.References (roots : List String) (parsed : Parsed) (w : Walk) (c : String) : Prop :=
  c ∈ roots ∨ ∃ k ∈ w.depth, ∃ derivedFrom, parsed.successors k = some derivedFrom ∧ c ∈ derivedFrom

theorem find?_fired_eq_none_iff (s : WalkState) (h : s.Accounted) :
    s.fired.find? (fun p => p.1 ∉ s.depth) = none ↔ ∀ e ∈ s.referenced, e ∈ s.depth := by
  rw [List.find?_eq_none]
  constructor
  · intro hnone e he
    rcases h.refused e he with hin | hfired
    · exact hin
    · obtain ⟨p, hp, rfl⟩ := List.mem_map.mp hfired
      simpa using hnone p hp
  · intro hall p hp
    simpa using hall p.1 (h.known p.1 (List.mem_map_of_mem hp))

/-- The walk, when nothing stops it. -/
theorem walk_correct (roots : List String) (parsed : Parsed) (limits : Limits) :
    let w := walk roots parsed limits (fun _ => false)
    (∀ extra, WalkState.levels parsed.successors limits (fun _ => false) (limits.maxDepth + 2 + extra) 0
        (walkStart (sorted roots) limits).depth.keys (walkStart (sorted roots) limits) =
      walkEnd (sorted roots) limits parsed.successors (fun _ => false)) ∧
    w.depth.size ≤ limits.maxNodes ∧
    (∀ (k : String) (n : ℕ), w.depth[k]? = some n →
      n ≤ limits.maxDepth ∧ IsDistance w.Edge (· ∈ roots) n k ∧
        w.edges.getD k [] = WalkState.recorded limits n ((parsed.successors k).getD [])) ∧
    (∀ k ∉ w.depth, w.edges.getD k [] = []) ∧
    (∀ c, c ∈ w.frontier ↔ w.References roots parsed c ∧ c ∉ w.depth) ∧
    (w.control = none ↔ w.frontier = []) ∧
    ∀ roots', (∀ r, r ∈ roots' ↔ r ∈ roots) → walk roots' parsed limits (fun _ => false) = w := by
  intro w
  obtain ⟨d, hsound⟩ := WalkState.sound_walkEnd (sorted roots) limits parsed.successors (fun _ => false)
  have hcovered := WalkState.covered_walkEnd (sorted roots) parsed.successors limits
  have hfrontier (c : String) : c ∈ w.frontier ↔ w.References roots parsed c ∧ c ∉ w.depth := by
    change c ∈ List.filter _ _ ↔ _
    rw [List.mem_filter, ExtTreeSet.mem_toList, hcovered.referenced, decide_eq_true_eq, mem_sorted_iff,
      Walk.References]
    refine and_congr_left' (or_congr_right ⟨?_, ?_⟩)
    · rintro ⟨k, derivedFrom, hk, hsuccessors, hc⟩
      exact ⟨k, hk, derivedFrom, hsuccessors, hc⟩
    · rintro ⟨k, hk, derivedFrom, hsuccessors, hc⟩
      exact ⟨k, derivedFrom, hk, hsuccessors, hc⟩
  refine ⟨fun extra => walkEnd_fuel (sorted roots) limits parsed.successors _ extra, hsound.size,
    fun k n hk => ?_, hcovered.fresh, hfrontier, ?_, fun roots' hsame => ?_⟩
  · refine ⟨(hsound.bound k n hk).2, ?_, hcovered.edges k n ((mem_iff_get _ _).mpr ⟨n, hk⟩) hk⟩
    have hstart : (· ∈ sorted roots) = fun r => r ∈ roots := by
      funext r
      rw [mem_sorted_iff]
    rw [← hstart]
    exact hsound.labels.isDistance _ _ n k hk
  · have hcontrol : w.control =
        ((walkEnd (sorted roots) limits parsed.successors (fun _ => false)).fired.find? (fun p =>
          p.1 ∉ (walkEnd (sorted roots) limits parsed.successors (fun _ => false)).depth)).map Prod.snd := by
      change (if _ then _ else _) = _
      rw [hcovered.running]
      rfl
    rw [hcontrol, Option.map_eq_none_iff, find?_fired_eq_none_iff _ hcovered.accounted]
    change _ ↔ List.filter _ _ = []
    rw [List.filter_eq_nil_iff]
    simp
  · change walk roots' parsed limits _ = walk roots parsed limits _
    rw [walk, walk, walkFrom, walkFrom, sorted_congr roots' roots hsame]

end Correct

end Acdp.Chain
