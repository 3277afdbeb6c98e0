import Acdp.Chain.WalkAdmitted
import Acdp.Foundation.Distance
import Acdp.Foundation.Transition

namespace Acdp.Chain

open Std (ExtTreeMap)
open Acdp.Foundation.Distance Acdp.Foundation.Transition

section Maps

variable {β : Type} (m : ExtTreeMap String β)

theorem get_insert (k a : String) (v : β) : (m.insert k v)[a]? = if k = a then some v else m[a]? := by
  rw [ExtTreeMap.getElem?_insert]
  simp only [Std.LawfulEqCmp.compare_eq_iff_eq]

theorem getD_insert (k a : String) (v fallback : β) :
    (m.insert k v).getD a fallback = if k = a then v else m.getD a fallback := by
  rw [ExtTreeMap.getD_insert]
  simp only [Std.LawfulEqCmp.compare_eq_iff_eq]

theorem mem_iff_get (k : String) : k ∈ m ↔ ∃ v, m[k]? = some v := by
  rw [ExtTreeMap.mem_iff_isSome_getElem?, Option.isSome_iff_exists]

end Maps

namespace WalkState

def Edge (s : WalkState) (j k : String) : Prop := k ∈ s.edges.getD j []

/-- What holds while level `d` is expanded: depths are distances over the recorded edges, and a node that
was refused for the node budget finds the budget spent for good. -/
structure Sound (roots : List String) (limits : Limits) (d : ℕ) (s : WalkState) : Prop where
  size : s.depth.size ≤ limits.maxNodes
  labels : Labels s.Edge (· ∈ roots) (fun k : String => s.depth[k]?)
  bound : ∀ (k : String) (n : ℕ), s.depth[k]? = some n → n ≤ d + 1 ∧ n ≤ limits.maxDepth
  spentEdge : ∀ j k, s.Edge j k → k ∉ s.depth → limits.maxNodes ≤ s.depth.size
  spentRoot : ∀ r ∈ roots, r ∉ s.depth → limits.maxNodes ≤ s.depth.size
  next : ∀ k : String, k ∈ s.next ↔ s.depth[k]? = some (d + 1)
  nodup : s.next.Nodup

structure Grows (d : ℕ) (s s' : WalkState) : Prop where
  keeps : ∀ (k : String) (n : ℕ), s.depth[k]? = some n → s'.depth[k]? = some n
  fresh : ∀ (k : String) (n : ℕ), s'.depth[k]? = some n → s.depth[k]? = some n ∨ n = d + 1

theorem Grows.of_eq {d : ℕ} {s s' : WalkState} (h : s'.depth = s.depth) : Grows d s s' :=
  ⟨fun k n hk => by rw [h]; exact hk, fun k n hk => .inl (by rw [h] at hk; exact hk)⟩

theorem Grows.trans {d : ℕ} {s s' s'' : WalkState} (h : Grows d s s') (h' : Grows d s' s'') : Grows d s s'' :=
  ⟨fun k n hk => h'.keeps k n (h.keeps k n hk), fun k n hk => (h'.fresh k n hk).elim (h.fresh k n) .inr⟩

section Follow

variable (roots : List String) (limits : Limits) (d : ℕ) (node e : String) (s : WalkState)

theorem Sound.of_eq (s' : WalkState) (h : s.Sound roots limits d) (hdepth : s'.depth = s.depth)
    (hedges : s'.edges = s.edges) (hnext : s'.next = s.next) : s'.Sound roots limits d := by
  have hedge : s'.Edge = s.Edge := by
    funext j k
    rw [Edge, Edge, hedges]
  exact ⟨by rw [hdepth]; exact h.size, by rw [hdepth, hedge]; exact h.labels, by rw [hdepth]; exact h.bound,
    by rw [hdepth, hedge]; exact h.spentEdge, by rw [hdepth]; exact h.spentRoot,
    by rw [hdepth, hnext]; exact h.next, by rw [hnext]; exact h.nodup⟩

def record : WalkState := { s with edges := s.edges.insert node (s.edges.getD node [] ++ [e]) }

theorem edge_record (j k : String) : (s.record node e).Edge j k ↔ s.Edge j k ∨ j = node ∧ k = e := by
  rw [Edge, Edge, record]
  dsimp only
  rw [getD_insert]
  split
  next hj =>
    subst hj
    rw [List.mem_append, List.mem_singleton]
    simp
  next hj => simp [Ne.symm hj]

theorem Sound.record (h : s.Sound roots limits d) (hnode : s.depth[node]? = some d)
    (hadmitted : e ∉ s.depth → limits.maxNodes ≤ s.depth.size) : (s.record node e).Sound roots limits d := by
  refine ⟨h.size, ⟨h.labels.zero, h.labels.origin, ?_, ?_⟩, h.bound, ?_, h.spentRoot, h.next, h.nodup⟩
  · intro k n hk
    obtain ⟨j, hj, hedge⟩ := h.labels.parent k n hk
    exact ⟨j, hj, (edge_record node e s j k).mpr (.inl hedge)⟩
  · intro j k hedge
    rcases (edge_record node e s j k).mp hedge with hold | ⟨rfl, rfl⟩
    · exact h.labels.source j k hold
    · exact ⟨d, hnode, fun m hm => (h.bound _ m hm).1⟩
  · intro j k hedge hk
    rcases (edge_record node e s j k).mp hedge with hold | ⟨rfl, rfl⟩
    · exact h.spentEdge j k hold hk
    · exact hadmitted hk

def admitNew : WalkState := { s.record node e with depth := s.depth.insert e (d + 1), next := s.next ++ [e] }

theorem Sound.admitNew (h : s.Sound roots limits d) (hd : d < limits.maxDepth)
    (hnode : s.depth[node]? = some d) (hnew : e ∉ s.depth) (hroom : s.depth.size < limits.maxNodes) :
    (s.admitNew d node e).Sound roots limits d := by
  have hget (k : String) : (s.admitNew d node e).depth[k]? = if e = k then some (d + 1) else s.depth[k]? :=
    get_insert s.depth e k (d + 1)
  have hkeep (k : String) (n : ℕ) (hk : s.depth[k]? = some n) : (s.admitNew d node e).depth[k]? = some n := by
    rw [hget, if_neg]
    · exact hk
    · rintro rfl
      exact hnew ((mem_iff_get _ _).mpr ⟨n, hk⟩)
  have hedge (j k : String) : (s.admitNew d node e).Edge j k ↔ s.Edge j k ∨ j = node ∧ k = e :=
    edge_record node e s j k
  have hsize : (s.admitNew d node e).depth.size = s.depth.size + 1 := by
    change (s.depth.insert e (d + 1)).size = _
    rw [ExtTreeMap.size_insert, if_neg (fun hmem => hnew (ExtTreeMap.mem_iff_contains.mpr hmem))]
  refine ⟨by omega, ⟨?_, ?_, ?_, ?_⟩, ?_, ?_, ?_, ?_, ?_⟩
  · intro k hk
    rw [hget] at hk
    split at hk
    · simp at hk
    · exact h.labels.zero k hk
  · intro k n hroot hk
    rw [hget] at hk
    split at hk
    next heq =>
      have := h.spentRoot k hroot (heq ▸ hnew)
      omega
    next => exact h.labels.origin k n hroot hk
  · intro k n hk
    rw [hget] at hk
    split at hk
    next heq =>
      obtain rfl : d = n := by simpa using hk
      exact ⟨node, hkeep node d hnode, (hedge node k).mpr (.inr ⟨rfl, heq.symm⟩)⟩
    next =>
      obtain ⟨j, hj, hjk⟩ := h.labels.parent k n hk
      exact ⟨j, hkeep j n hj, (hedge j k).mpr (.inl hjk)⟩
  · intro j k hjk
    rcases (hedge j k).mp hjk with hold | ⟨rfl, rfl⟩
    · obtain ⟨n, hn, hle⟩ := h.labels.source j k hold
      refine ⟨n, hkeep j n hn, fun m hm => ?_⟩
      rw [hget] at hm
      split at hm
      next heq =>
        have := h.spentEdge j k hold (heq ▸ hnew)
        omega
      next => exact hle m hm
    · refine ⟨d, hkeep j d hnode, fun m hm => ?_⟩
      rw [hget, if_pos rfl] at hm
      exact (Option.some.inj hm).ge
  · intro k n hk
    rw [hget] at hk
    split at hk
    · obtain rfl := Option.some.inj hk
      omega
    · exact h.bound k n hk
  · intro j k hjk hk
    have hold : k ∉ s.depth := fun hmem => by
      obtain ⟨n, hn⟩ := (mem_iff_get _ _).mp hmem
      exact hk ((mem_iff_get _ _).mpr ⟨n, hkeep k n hn⟩)
    rcases (hedge j k).mp hjk with hjk | ⟨rfl, rfl⟩
    · have := h.spentEdge j k hjk hold
      omega
    · exact absurd ExtTreeMap.mem_insert_self hk
  · intro r hr hmem
    have hold : r ∉ s.depth := fun hmem' => by
      obtain ⟨n, hn⟩ := (mem_iff_get _ _).mp hmem'
      exact hmem ((mem_iff_get _ _).mpr ⟨n, hkeep r n hn⟩)
    have := h.spentRoot r hr hold
    omega
  · intro k
    change k ∈ s.next ++ [e] ↔ _
    rw [List.mem_append, List.mem_singleton, h.next, hget]
    split
    next heq => simp [heq]
    next hne =>
      constructor
      · rintro (hk | rfl)
        · exact hk
        · exact absurd rfl hne
      · exact .inl
  · change (s.next ++ [e]).Nodup
    rw [List.nodup_append]
    refine ⟨h.nodup, List.nodup_singleton e, fun a ha b hb hab => ?_⟩
    obtain rfl := List.mem_singleton.mp hb
    exact hnew ((mem_iff_get _ _).mpr ⟨d + 1, hab ▸ (h.next a).mp ha⟩)

theorem follow_cases (p : String × ℕ) :
    (limits.maxFanout ≤ p.2 ∧ s.follow limits d node p =
      { s with referenced := s.referenced.insert p.1, fired := s.fired ++ [(p.1, .maxFanout)] }) ∨
    (p.2 < limits.maxFanout ∧ p.1 ∈ s.depth ∧ s.follow limits d node p =
      { s.record node p.1 with referenced := s.referenced.insert p.1 }) ∨
    (p.2 < limits.maxFanout ∧ p.1 ∉ s.depth ∧ limits.maxNodes ≤ s.depth.size ∧ s.follow limits d node p =
      { s.record node p.1 with
        referenced := s.referenced.insert p.1
        fired := s.fired ++ [(p.1, .maxNodes)] }) ∨
    (p.2 < limits.maxFanout ∧ p.1 ∉ s.depth ∧ s.depth.size < limits.maxNodes ∧ s.follow limits d node p =
      { s.admitNew d node p.1 with referenced := s.referenced.insert p.1 }) := by
  rw [follow]
  by_cases hfanout : limits.maxFanout ≤ p.2
  · exact .inl ⟨hfanout, if_pos hfanout⟩
  · rw [if_neg hfanout]
    by_cases hseen : p.1 ∈ s.depth
    · exact .inr (.inl ⟨by omega, hseen, if_pos hseen⟩)
    · by_cases hfull : limits.maxNodes ≤ s.depth.size
      · exact .inr (.inr (.inl ⟨by omega, hseen, hfull, by rw [if_neg hseen, if_pos hfull]; rfl⟩))
      · exact .inr (.inr (.inr ⟨by omega, hseen, by omega, by rw [if_neg hseen, if_neg hfull]; rfl⟩))

theorem grows_follow (p : String × ℕ) : Grows d s (s.follow limits d node p) := by
  rcases follow_cases limits d node s p with ⟨-, heq⟩ | ⟨-, -, heq⟩ | ⟨-, -, -, heq⟩ | ⟨-, hnew, -, heq⟩
  · rw [heq]
    exact .of_eq rfl
  · rw [heq]
    exact .of_eq rfl
  · rw [heq]
    exact .of_eq rfl
  · rw [heq]
    refine ⟨fun k n hk => ?_, fun k n hk => ?_⟩
    · change (s.depth.insert p.1 (d + 1))[k]? = _
      rw [get_insert, if_neg]
      · exact hk
      · rintro rfl
        exact hnew ((mem_iff_get _ _).mpr ⟨n, hk⟩)
    · change (s.depth.insert p.1 (d + 1))[k]? = _ at hk
      rw [get_insert] at hk
      split at hk
      · exact .inr (Option.some.inj hk).symm
      · exact .inl hk

theorem Sound.follow (h : s.Sound roots limits d) (hd : d < limits.maxDepth) (hnode : s.depth[node]? = some d)
    (p : String × ℕ) : (s.follow limits d node p).Sound roots limits d := by
  rcases follow_cases limits d node s p with ⟨-, heq⟩ | ⟨-, hseen, heq⟩ | ⟨-, -, hfull, heq⟩ | ⟨-,
    hnew, hroom, heq⟩
  · rw [heq]
    exact h.of_eq roots limits d s _ rfl rfl rfl
  · rw [heq]
    exact (h.record roots limits d node p.1 s hnode (absurd hseen)).of_eq roots limits d _ _ rfl rfl rfl
  · rw [heq]
    exact (h.record roots limits d node p.1 s hnode (fun _ => hfull)).of_eq roots limits d _ _ rfl rfl rfl
  · rw [heq]
    exact (h.admitNew roots limits d node p.1 s hd hnode hnew hroom).of_eq roots limits d _ _ rfl rfl rfl

end Follow

section Levels

variable (roots : List String) (successors : String → Option (List String)) (limits : Limits)
    (stop : ℕ → Bool) (d : ℕ)

def SoundAfter (s s' : WalkState) : Prop := s'.Sound roots limits d ∧ Grows d s s'

theorem soundAfter_foldl {β : Type} (step : WalkState → β → WalkState) (l : List β) (s : WalkState)
    (h : s.Sound roots limits d)
    (hstep : ∀ s', SoundAfter roots limits d s s' → ∀ b ∈ l, SoundAfter roots limits d s' (step s' b)) :
    SoundAfter roots limits d s (l.foldl step s) := by
  refine List.foldlRecOn l step ⟨h, .of_eq rfl⟩ (fun s' hs' b hb => ?_)
  obtain ⟨hsound, hgrows⟩ := hstep s' hs' b hb
  exact ⟨hsound, hs'.2.trans hgrows⟩

theorem soundAfter_expand (node : String) (derivedFrom : List String) (s : WalkState)
    (h : s.Sound roots limits d) (hnode : s.depth[node]? = some d) :
    SoundAfter roots limits d s (s.expand limits d node derivedFrom) := by
  unfold expand
  dsimp only
  split
  · exact soundAfter_foldl roots limits d tooDeep _ s h
      (fun s' hs' e _ => ⟨hs'.1.of_eq roots limits d s' _ rfl rfl rfl, .of_eq rfl⟩)
  next hd =>
    refine soundAfter_foldl roots limits d _ _ s h (fun s' hs' p _ => ?_)
    exact ⟨hs'.1.follow roots limits d node s' (not_le.mp hd) (hs'.2.keeps node d hnode) p,
      grows_follow limits d node s' p⟩

theorem soundAfter_visit (node : String) (s : WalkState) (h : s.Sound roots limits d)
    (hnode : s.depth[node]? = some d) : SoundAfter roots limits d s
    (s.visit successors limits stop d node) := by
  have hsame (s' : WalkState) (hdepth : s'.depth = s.depth) (hedges : s'.edges = s.edges)
    (hnext : s'.next = s.next) : SoundAfter roots limits d s s' :=
    ⟨h.of_eq roots limits d s s' hdepth hedges hnext, .of_eq hdepth⟩
  unfold visit
  split
  · exact hsame s rfl rfl rfl
  split
  · exact hsame _ rfl rfl rfl
  · split
    · exact hsame _ rfl rfl rfl
    · obtain ⟨hpolled, hgrows⟩ := hsame { s with polls := s.polls + 1 } rfl rfl rfl
      obtain ⟨hsound, hgrows'⟩ := soundAfter_expand roots limits d node _ _ hpolled hnode
      exact ⟨hsound, hgrows.trans hgrows'⟩

theorem soundAfter_level (level : List String) (s : WalkState) (h : s.Sound roots limits d)
    (hlevel : ∀ k ∈ level, s.depth[k]? = some d) :
    SoundAfter roots limits d s (level.foldl (visit successors limits stop d) s) := by
  refine soundAfter_foldl roots limits d _ level s h (fun s' hs' k hk => ?_)
  exact soundAfter_visit roots successors limits stop d k s' hs'.1 (hs'.2.keeps k d (hlevel k hk))

theorem Sound.nextLevel (s : WalkState) (h : s.Sound roots limits d) :
    ({ s with next := [] } : WalkState).Sound roots limits (d + 1) ∧
      ∀ k ∈ s.next.insertionSort (· ≤ ·), s.depth[k]? = some (d + 1) := by
  refine ⟨⟨h.size, h.labels, ?_, h.spentEdge, h.spentRoot, ?_, List.nodup_nil⟩, ?_⟩
  · intro k n hk
    have := h.bound k n hk
    omega
  · intro k
    constructor
    · exact fun hk => (nomatch hk)
    · intro hk
      have := (h.bound k _ hk).1
      omega
  · intro k hk
    exact (h.next k).mp ((List.mem_insertionSort _).mp hk)

theorem sound_levels (fuel : ℕ) (level : List String) (s : WalkState)
    (h : ({ s with next := [] } : WalkState).Sound roots limits d)
    (hlevel : ∀ k ∈ level, s.depth[k]? = some d) :
    ∃ d', ({ levels successors limits stop fuel d level s with next := [] } : WalkState).Sound roots
      limits d' := by
  induction fuel generalizing d level s with
  | zero => exact ⟨d, h⟩
  | succ fuel ih =>
    unfold levels
    split
    · exact ⟨d, h⟩
    · obtain ⟨hsound, -⟩ := soundAfter_level roots successors limits stop d level _ h hlevel
      obtain ⟨hnext, hdepth⟩ := hsound.nextLevel roots limits d
      exact ih (d + 1) _ _ hnext hdepth

end Levels

section Roots

variable (roots : List String) (limits : Limits)

structure Rooted (seen : List String) (s : WalkState) : Prop where
  size : s.depth.size ≤ limits.maxNodes
  zero : ∀ (k : String) (n : ℕ), s.depth[k]? = some n → n = 0 ∧ k ∈ seen
  spent : ∀ r ∈ seen, r ∉ s.depth → limits.maxNodes ≤ s.depth.size
  edges : s.edges = ∅
  next : s.next = []

theorem Rooted.admitRoot (seen : List String) (r : String) (s : WalkState) (h : s.Rooted limits seen) :
    (s.admitRoot limits r).Rooted limits (seen ++ [r]) := by
  unfold WalkState.admitRoot
  split
  next hroom =>
    have hmem (k : String) : k ∈ s.depth → k ∈ s.depth.insert r 0 :=
      fun hk => ExtTreeMap.mem_insert.mpr (.inr hk)
    refine ⟨?_, ?_, ?_, h.edges, h.next⟩
    · dsimp only
      rw [ExtTreeMap.size_insert]
      split <;> omega
    · intro k n hk
      dsimp only at hk
      rw [get_insert] at hk
      split at hk
      next heq => exact ⟨(Option.some.inj hk).symm, by simp [heq]⟩
      next => exact ⟨(h.zero k n hk).1, List.mem_append_left _ (h.zero k n hk).2⟩
    · intro k hk hnot
      dsimp only at hnot ⊢
      rcases List.mem_append.mp hk with hold | hnew
      · have := h.spent k hold (fun hin => hnot (hmem k hin))
        omega
      · obtain rfl := List.mem_singleton.mp hnew
        exact absurd ExtTreeMap.mem_insert_self hnot
  next hfull =>
    refine ⟨h.size, fun k n hk => ⟨(h.zero k n hk).1, List.mem_append_left _ (h.zero k n hk).2⟩, ?_,
      h.edges, h.next⟩
    intro k hk _
    exact not_lt.mp hfull

theorem rooted_walkStart : (walkStart roots limits).Rooted limits roots := by
  refine foldl_invariant (WalkState.admitRoot limits) (fun seen s => s.Rooted limits seen)
    (fun seen r s h => h.admitRoot limits seen r s) roots [] _ ?_
  refine ⟨by simp, fun k n hk => ?_, fun r hr => (nomatch hr), rfl, rfl⟩
  simp at hk

theorem sound_walkStart : (walkStart roots limits).Sound roots limits 0 := by
  have h := rooted_walkStart roots limits
  have hedge (j k : String) : ¬ (walkStart roots limits).Edge j k := by
    rw [Edge, h.edges]
    simp
  refine ⟨h.size, ⟨fun k hk => (h.zero k 0 hk).2, fun k n _ hk => (h.zero k n hk).1, ?_, ?_⟩, ?_,
    ?_, h.spent, ?_, h.next ▸ List.nodup_nil⟩
  · intro k n hk
    have := (h.zero k _ hk).1
    omega
  · exact fun j k hjk => absurd hjk (hedge j k)
  · intro k n hk
    have := (h.zero k n hk).1
    omega
  · exact fun j k hjk => absurd hjk (hedge j k)
  · intro k
    rw [h.next]
    constructor
    · exact fun hk => (nomatch hk)
    · intro hk
      have := (h.zero k _ hk).1
      omega

theorem sound_walkEnd (successors : String → Option (List String)) (stop : ℕ → Bool) :
    ∃ d, ({ walkEnd roots limits successors stop with next := [] } : WalkState).Sound roots limits d := by
  have h := sound_walkStart roots limits
  have hnext : (walkStart roots limits).next = [] := (rooted_walkStart roots limits).next
  refine sound_levels roots successors limits stop 0 _ _ _ ?_ ?_
  · exact h.of_eq roots limits 0 _ _ rfl rfl hnext.symm
  · intro k hk
    obtain ⟨n, hn⟩ := (mem_iff_get _ _).mp (ExtTreeMap.mem_keys.mp hk)
    rw [hn, ((rooted_walkStart roots limits).zero k n hn).1]

end Roots

end WalkState

end Acdp.Chain
