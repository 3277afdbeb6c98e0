import Acdp.Chain.Walk

namespace Acdp.Chain

open Std (ExtTreeMap)

namespace WalkState

/-- Every node a walk has admitted is a root or is referenced by an admitted node, and the nodes of the
next level are admitted. -/
structure Grounded (roots : List String) (successors : String → Option (List String))
    (s : WalkState) : Prop where
  next : ∀ k ∈ s.next, k ∈ s.depth
  origin : ∀ k ∈ s.depth, k ∈ roots ∨ ∃ j ∈ s.depth, ∃ derivedFrom, successors j = some derivedFrom ∧
    k ∈ derivedFrom

def Extends (roots : List String) (successors : String → Option (List String)) (s s' : WalkState) : Prop :=
  (∀ k ∈ s.depth, k ∈ s'.depth) ∧ (s.Grounded roots successors → s'.Grounded roots successors)

theorem Extends.refl (roots : List String) (successors : String → Option (List String)) (s : WalkState) :
    s.Extends roots successors s :=
  ⟨fun _ hk => hk, fun h => h⟩

theorem Extends.trans {roots : List String} {successors : String → Option (List String)}
    {s s' s'' : WalkState} (h : s.Extends roots successors s') (h' : s'.Extends roots successors s'') :
    s.Extends roots successors s'' :=
  ⟨fun k hk => h'.1 k (h.1 k hk), fun hs => h'.2 (h.2 hs)⟩

theorem extends_foldl {α : Type} (roots : List String) (successors : String → Option (List String))
    (step : WalkState → α → WalkState) (l : List α) (s : WalkState)
    (hstep : ∀ a ∈ l, ∀ s', s.Extends roots successors s' → s'.Extends roots successors (step s' a)) :
    s.Extends roots successors (l.foldl step s) := by
  induction l generalizing s with
  | nil => exact .refl roots successors s
  | cons a l ih =>
    have ha := hstep a List.mem_cons_self s (.refl roots successors s)
    refine ha.trans (ih (step s a) (fun b hb s' hs' => ?_))
    exact hstep b (List.mem_cons_of_mem _ hb) s' (ha.trans hs')

theorem extends_of_eq (roots : List String) (successors : String → Option (List String)) (s s' : WalkState)
    (hdepth : s'.depth = s.depth) (hnext : s'.next = s.next) : s.Extends roots successors s' := by
  refine ⟨fun k hk => by rwa [hdepth], fun h => ⟨?_, ?_⟩⟩
  · rw [hdepth, hnext]
    exact h.next
  · rw [hdepth]
    exact h.origin

theorem extends_follow (roots : List String) (successors : String → Option (List String))
    (limits : Limits) (d : ℕ) (node : String) (derivedFrom : List String)
    (hnode : successors node = some derivedFrom) (s : WalkState)
    (hs : node ∈ s.depth) (p : String × ℕ) (hp : p.1 ∈ derivedFrom) :
    s.Extends roots successors (s.follow limits d node p) := by
  unfold follow
  dsimp only
  split_ifs with hfanout hseen hnodes
  · exact extends_of_eq roots successors _ _ rfl rfl
  · exact extends_of_eq roots successors _ _ rfl rfl
  · exact extends_of_eq roots successors _ _ rfl rfl
  · refine ⟨fun k hk => ExtTreeMap.mem_insert.mpr (.inr hk), fun h => ⟨?_, ?_⟩⟩
    · intro k hk
      rcases List.mem_append.mp hk with hk | hk
      · exact ExtTreeMap.mem_insert.mpr (.inr (h.next k hk))
      · obtain rfl := List.mem_singleton.mp hk
        exact ExtTreeMap.mem_insert_self
    · intro k hk
      rcases ExtTreeMap.mem_insert.mp hk with hk | hk
      · obtain rfl := Std.LawfulEqCmp.compare_eq_iff_eq.mp hk
        exact .inr ⟨node, ExtTreeMap.mem_insert.mpr (.inr hs), derivedFrom, hnode, hp⟩
      · rcases h.origin k hk with hroot | ⟨j, hj, rest⟩
        · exact .inl hroot
        · exact .inr ⟨j, ExtTreeMap.mem_insert.mpr (.inr hj), rest⟩

theorem extends_expand (roots : List String) (successors : String → Option (List String))
    (limits : Limits) (d : ℕ) (node : String) (derivedFrom : List String)
    (hnode : successors node = some derivedFrom) (s : WalkState)
    (hs : node ∈ s.depth) : s.Extends roots successors (s.expand limits d node derivedFrom) := by
  unfold expand
  dsimp only
  split_ifs
  · exact extends_foldl roots successors tooDeep _ s
      (fun k _ s' _ => extends_of_eq roots successors s' _ rfl rfl)
  · refine extends_foldl roots successors _ _ s (fun p hp s' hs' => ?_)
    exact extends_follow roots successors limits d node derivedFrom hnode s' (hs'.1 node hs) p
      (List.mem_eraseDups.mp (List.fst_mem_of_mem_zipIdx hp))

theorem extends_visit (roots : List String) (successors : String → Option (List String)) (limits : Limits)
    (stop : ℕ → Bool) (d : ℕ) (node : String) (s : WalkState) (hs : node ∈ s.depth) :
    s.Extends roots successors (s.visit successors limits stop d node) := by
  unfold visit
  split
  · exact .refl roots successors s
  split
  · exact extends_of_eq roots successors s _ rfl rfl
  · cases hnode : successors node with
    | none => exact extends_of_eq roots successors s _ rfl rfl
    | some derivedFrom =>
      have hpolled := extends_of_eq roots successors s { s with polls := s.polls + 1 } rfl rfl
      exact hpolled.trans (extends_expand roots successors limits d node derivedFrom hnode _ hs)

theorem extends_level (roots : List String) (successors : String → Option (List String)) (limits : Limits)
    (stop : ℕ → Bool) (d : ℕ) (level : List String) (s : WalkState) (hlevel : ∀ k ∈ level, k ∈ s.depth) :
    s.Extends roots successors (level.foldl (visit successors limits stop d) { s with next := [] }) := by
  have hclear : s.Extends roots successors { s with next := [] } :=
    ⟨fun _ hk => hk, fun h => ⟨fun _ hk => (List.not_mem_nil hk).elim, h.origin⟩⟩
  refine hclear.trans (extends_foldl roots successors _ level _ (fun k hk s' hs' => ?_))
  exact extends_visit roots successors limits stop d k s' (hs'.1 k (hlevel k hk))

theorem extends_levels (roots : List String) (successors : String → Option (List String)) (limits : Limits)
    (stop : ℕ → Bool) (fuel d : ℕ) (level : List String) (s : WalkState) (hs : s.Grounded roots successors)
    (hlevel : ∀ k ∈ level, k ∈ s.depth) :
    s.Extends roots successors (levels successors limits stop fuel d level s) := by
  induction fuel generalizing d level s with
  | zero => exact .refl roots successors s
  | succ fuel ih =>
    unfold levels
    split
    · exact .refl roots successors s
    · have hlevels := extends_level roots successors limits stop d level s hlevel
      have hgrounded := hlevels.2 hs
      exact hlevels.trans
        (ih (d + 1) _ _ hgrounded (fun k hk => hgrounded.next k ((List.mem_insertionSort _).mp hk)))

theorem foldl_visit_congr (successors successors' : String → Option (List String)) (limits : Limits)
    (stop : ℕ → Bool) (d : ℕ) (level : List String) (s : WalkState)
    (hagree : ∀ k ∈ level, successors' k = successors k) :
    level.foldl (visit successors' limits stop d) s = level.foldl (visit successors limits stop d) s := by
  refine List.foldl_ext _ _ _ (fun s' k hk => ?_)
  unfold visit
  rw [hagree k hk]

theorem levels_congr (roots : List String) (successors successors' : String → Option (List String))
    (limits : Limits) (stop : ℕ → Bool) (fuel d : ℕ) (level : List String) (s : WalkState)
    (hs : s.Grounded roots successors) (hlevel : ∀ k ∈ level, k ∈ s.depth)
    (hagree : ∀ k ∈ (levels successors limits stop fuel d level s).depth, successors' k = successors k) :
    levels successors' limits stop fuel d level s = levels successors limits stop fuel d level s := by
  induction fuel generalizing d level s with
  | zero => rfl
  | succ fuel ih =>
    have hrun := extends_levels roots successors limits stop (fuel + 1) d level s hs hlevel
    unfold levels at hagree hrun ⊢
    split
    · rfl
    · rename_i hcontinue
      rw [if_neg hcontinue] at hagree hrun
      have hlevels := extends_level roots successors limits stop d level s hlevel
      have hgrounded := hlevels.2 hs
      dsimp only at hagree hrun ⊢
      rw [foldl_visit_congr successors successors' limits stop d level _
        (fun k hk => hagree k (hrun.1 k (hlevel k hk)))]
      exact ih (d + 1) _ _ hgrounded (fun k hk => hgrounded.next k ((List.mem_insertionSort _).mp hk)) hagree

theorem extends_admitRoot (roots : List String) (successors : String → Option (List String)) (limits : Limits)
    (s : WalkState) (r : String) (hr : r ∈ roots) : s.Extends roots successors (s.admitRoot limits r) := by
  unfold admitRoot
  split_ifs
  · refine ⟨fun k hk => ExtTreeMap.mem_insert.mpr (.inr hk), fun h => ⟨?_, ?_⟩⟩
    · exact fun k hk => ExtTreeMap.mem_insert.mpr (.inr (h.next k hk))
    · intro k hk
      rcases ExtTreeMap.mem_insert.mp hk with hk | hk
      · obtain rfl := Std.LawfulEqCmp.compare_eq_iff_eq.mp hk
        exact .inl hr
      · rcases h.origin k hk with hroot | ⟨j, hj, rest⟩
        · exact .inl hroot
        · exact .inr ⟨j, ExtTreeMap.mem_insert.mpr (.inr hj), rest⟩
  · exact extends_of_eq roots successors s _ rfl rfl

theorem grounded_walkStart (roots : List String) (successors : String → Option (List String))
    (limits : Limits) : (walkStart roots limits).Grounded roots successors := by
  refine (extends_foldl roots successors (admitRoot limits) roots _ (fun r hr s _ => ?_)).2 ⟨?_, ?_⟩
  · exact extends_admitRoot roots successors limits s r hr
  · exact fun k hk => (List.not_mem_nil hk).elim
  · exact fun k hk => (ExtTreeMap.not_mem_empty hk).elim

theorem extends_walkEnd (roots : List String) (successors : String → Option (List String)) (limits : Limits)
    (stop : ℕ → Bool) :
    (walkStart roots limits).Extends roots successors (walkEnd roots limits successors stop) :=
  extends_levels roots successors limits stop _ 0 _ _ (grounded_walkStart roots successors limits)
    (fun _ hk => ExtTreeMap.mem_keys.mp hk)

theorem next_foldl_tooDeep (l : List String) (s : WalkState) : (l.foldl tooDeep s).next = s.next := by
  induction l generalizing s with
  | nil => rfl
  | cons k l ih => exact ih (s.tooDeep k)

theorem next_visit (successors : String → Option (List String)) (limits : Limits) (stop : ℕ → Bool) (d : ℕ)
    (hd : limits.maxDepth ≤ d) (s : WalkState) (node : String) :
    (s.visit successors limits stop d node).next = s.next := by
  unfold visit
  split
  · rfl
  split
  · rfl
  · cases successors node with
    | none => rfl
    | some derivedFrom =>
      dsimp only
      rw [expand, if_pos hd, next_foldl_tooDeep]

theorem next_foldl_visit (successors : String → Option (List String)) (limits : Limits)
    (stop : ℕ → Bool) (d : ℕ) (hd : limits.maxDepth ≤ d) (level : List String) (s : WalkState) :
    (level.foldl (visit successors limits stop d) s).next = s.next := by
  induction level generalizing s with
  | nil => rfl
  | cons k level ih => rw [List.foldl_cons, ih, next_visit successors limits stop d hd]

theorem levels_fuel (successors : String → Option (List String)) (limits : Limits) (stop : ℕ → Bool)
    (fuel extra d : ℕ) (level : List String) (s : WalkState) (hfuel : limits.maxDepth + 2 ≤ d + fuel)
    (hlevel : limits.maxDepth < d → level = []) :
    levels successors limits stop (fuel + extra) d level s =
      levels successors limits stop fuel d level s := by
  induction fuel generalizing d level s with
  | zero =>
    obtain rfl := hlevel (by omega)
    cases extra <;> simp [levels]
  | succ fuel ih =>
    rw [Nat.add_right_comm]
    unfold levels
    split
    · rfl
    · refine ih (d + 1) _ _ (by omega) (fun hd => ?_)
      rw [next_foldl_visit successors limits stop d (by omega), List.insertionSort_nil]

end WalkState

theorem mem_sorted (v : List String) (k : String) (hk : k ∈ sorted v) : k ∈ v :=
  (List.mem_insertionSort _).mp ((List.destutter_sublist _ _).mem hk)

theorem walk_congr (roots : List String) (parsed parsed' : Parsed) (limits : Limits) (stop : ℕ → Bool)
    (hagree : ∀ k ∈ (walk roots parsed limits stop).depth, parsed'.successors k = parsed.successors k) :
    walk roots parsed' limits stop = walk roots parsed limits stop := by
  have hend : walkEnd (sorted roots) limits parsed'.successors stop =
      walkEnd (sorted roots) limits parsed.successors stop :=
    WalkState.levels_congr (sorted roots) parsed.successors parsed'.successors limits stop _ 0 _ _
      (WalkState.grounded_walkStart _ _ limits) (fun _ hk => ExtTreeMap.mem_keys.mp hk) hagree
  simp only [walk, walkFrom, hend]

theorem walkEnd_fuel (roots : List String) (limits : Limits) (successors : String → Option (List String))
    (stop : ℕ → Bool) (extra : ℕ) :
    WalkState.levels successors limits stop (limits.maxDepth + 2 + extra) 0
      (walkStart roots limits).depth.keys (walkStart roots limits) = walkEnd roots limits successors stop :=
  WalkState.levels_fuel successors limits stop _ extra 0 _ _ (by omega) (by omega)

theorem walk_origin (roots : List String) (parsed : Parsed) (limits : Limits) (stop : ℕ → Bool) (k : String)
    (hk : k ∈ (walk roots parsed limits stop).depth) :
    k ∈ roots ∨ ∃ j ∈ (walk roots parsed limits stop).depth, ∃ pc, parsed.contexts[j]? = some pc ∧
      k ∈ pc.body.derivedFrom := by
  have hgrounded := (WalkState.extends_walkEnd (sorted roots) parsed.successors limits stop).2
    (WalkState.grounded_walkStart _ _ limits)
  rcases hgrounded.origin k hk with hroot | ⟨j, hj, derivedFrom, hsuccessors, hmem⟩
  · exact .inl (mem_sorted roots k hroot)
  · obtain ⟨pc, hpc, rfl⟩ := Option.map_eq_some_iff.mp hsuccessors
    exact .inr ⟨j, hj, pc, hpc, hmem⟩

end Acdp.Chain
