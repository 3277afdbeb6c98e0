import Mathlib.Data.List.Forall2
import Std.Data.ExtTreeMap
import Std.Data.ExtTreeMap.Lemmas

namespace Acdp.Foundation.Entries

open Std (ExtTreeMap TransCmp LawfulEqCmp)

variable {κ α β ε : Type} {cmp : κ → κ → Ordering} [TransCmp cmp] [LawfulEqCmp cmp]

omit [TransCmp cmp] [LawfulEqCmp cmp] in
theorem bind_ok (x : Except ε α) (f : α → Except ε β) (b : β) (h : x >>= f = .ok b) :
    ∃ a, x = .ok a ∧ f a = .ok b := by
  cases x with
  | error e => cases h
  | ok a => exact ⟨a, rfl, h⟩

omit [TransCmp cmp] [LawfulEqCmp cmp] in
theorem ok_of_isOk (x : Except ε α) (h : x.isOk = true) : ∃ a, x = .ok a := by
  cases x with
  | error e => cases h
  | ok a => exact ⟨a, rfl⟩

omit [TransCmp cmp] [LawfulEqCmp cmp] in
theorem seq_ok_iff (x : Except ε Unit) (y : Except ε β) (b : β) :
    (x >>= fun _ => y) = .ok b ↔ x = .ok () ∧ y = .ok b := by
  cases x with
  | error e => simp [bind, Except.bind]
  | ok u => simp [bind, Except.bind]

omit [TransCmp cmp] [LawfulEqCmp cmp] in
theorem discard_ok_iff (x : Except ε α) (y : Except ε β) (b : β) :
    (x >>= fun _ => y) = .ok b ↔ (∃ a, x = .ok a) ∧ y = .ok b := by
  cases x with
  | error e => simp [bind, Except.bind]
  | ok a => simp [bind, Except.bind]

omit [TransCmp cmp] [LawfulEqCmp cmp] in
theorem guard_ok_iff (c : Prop) [Decidable c] (e : ε) (y : Except ε β) (b : β) :
    (if c then ((.error e : Except ε PUnit) >>= fun _ => y) else y) = .ok b ↔ ¬ c ∧ y = .ok b := by
  by_cases hc : c
  · simp [hc, bind, Except.bind]
  · simp [hc]

theorem forall₂_of_mapM_ok (f : α → Except ε β) (l : List α) (l' : List β) (h : l.mapM f = .ok l') :
    List.Forall₂ (fun a b => f a = .ok b) l l' := by
  induction l generalizing l' with
  | nil =>
    obtain rfl := Except.ok.inj h
    exact .nil
  | cons a l ih =>
    rw [List.mapM_cons] at h
    cases ha : f a with
    | error e => rw [ha] at h; cases h
    | ok b =>
      rw [ha] at h
      cases hl : l.mapM f with
      | error e => rw [hl] at h; cases h
      | ok bs =>
        rw [hl] at h
        obtain rfl := Except.ok.inj h
        exact .cons ha (ih bs hl)

theorem mem_of_forall₂_ok (f : α → Except ε β) (l : List α) (l' : List β)
    (h : List.Forall₂ (fun a b => f a = .ok b) l l') (b : β) (hb : b ∈ l') : ∃ a ∈ l, f a = .ok b := by
  induction h with
  | nil => cases hb
  | @cons a c l l' hac _ ih =>
    rcases List.mem_cons.mp hb with rfl | hb
    · exact ⟨a, List.mem_cons_self, hac⟩
    · obtain ⟨x, hx, hfx⟩ := ih hb
      exact ⟨x, List.mem_cons_of_mem _ hx, hfx⟩

theorem exists_of_forall₂_ok (f : α → Except ε β) (l : List α) (l' : List β)
    (h : List.Forall₂ (fun a b => f a = .ok b) l l') (a : α) (ha : a ∈ l) : ∃ b ∈ l', f a = .ok b := by
  induction h with
  | nil => cases ha
  | @cons x b l l' hxb _ ih =>
    rcases List.mem_cons.mp ha with rfl | ha
    · exact ⟨b, List.mem_cons_self, hxb⟩
    · obtain ⟨c, hc, hfc⟩ := ih ha
      exact ⟨c, List.mem_cons_of_mem _ hc, hfc⟩

theorem append_of_forall₂_ok (f : α → Except ε β) (l added : List α) (l' m : List β)
    (h : List.Forall₂ (fun a b => f a = .ok b) l l')
    (hm : List.Forall₂ (fun a b => f a = .ok b) (l ++ added) m) :
    ∃ rest, m = l' ++ rest ∧ List.Forall₂ (fun a b => f a = .ok b) added rest := by
  induction h generalizing m with
  | nil => exact ⟨m, rfl, hm⟩
  | @cons a b l l' hab _ ih =>
    cases hm with
    | @cons _ c _ m hac hm =>
      obtain ⟨rest, rfl, hrest⟩ := ih m hm
      rw [hab] at hac
      obtain rfl := Except.ok.inj hac
      exact ⟨rest, rfl, hrest⟩

theorem forM_ok (f : α → Except ε Unit) (l : List α) (h : l.forM f = .ok ()) : ∀ a ∈ l, f a = .ok () := by
  induction l with
  | nil => intro a ha; cases ha
  | cons b l ih =>
    obtain ⟨⟨⟩, hb, hl⟩ := bind_ok _ _ _ h
    exact List.forall_mem_cons.mpr ⟨hb, ih hl⟩

def parseEntry (f : κ → α → Except ε β) (p : κ × α) : Except ε (κ × β) :=
  (f p.1 p.2).map (fun b => (p.1, b))

theorem parseEntry_ok (f : κ → α → Except ε β) (p : κ × α) (q : κ × β) :
    parseEntry f p = .ok q ↔ p.1 = q.1 ∧ f p.1 p.2 = .ok q.2 := by
  cases h : f p.1 p.2 with
  | error e => simp [parseEntry, Except.map, h]
  | ok b =>
    simp only [parseEntry, Except.map, h, Except.ok.injEq, Prod.ext_iff]

def parseEntries (f : κ → α → Except ε β) (m : ExtTreeMap κ α cmp) : Except ε (ExtTreeMap κ β cmp) := do
  return ExtTreeMap.ofList (← m.toList.mapM (parseEntry f)) cmp

theorem map_fst_of_mapM_parseEntry (f : κ → α → Except ε β) (l : List (κ × α)) (l' : List (κ × β))
    (h : l.mapM (parseEntry f) = .ok l') : l'.map Prod.fst = l.map Prod.fst := by
  have hall := forall₂_of_mapM_ok _ l l' h
  clear h
  induction hall with
  | nil => rfl
  | cons hab _ ih => rw [List.map_cons, List.map_cons, ih, ((parseEntry_ok f _ _).mp hab).1]

theorem getElem?_ofList_eq_some (l : List (κ × β)) (hl : (l.map Prod.fst).Nodup) (k : κ) (b : β) :
    (ExtTreeMap.ofList l cmp)[k]? = some b ↔ (k, b) ∈ l := by
  have hdistinct : l.Pairwise (fun x y => ¬ cmp x.1 y.1 = .eq) := by
    rw [List.Nodup, List.pairwise_map] at hl
    exact hl.imp (fun hne heq => hne (LawfulEqCmp.compare_eq_iff_eq.mp heq))
  constructor
  · intro h
    classical
    let _ : BEq κ := instBEqOfDecidableEq
    have : Std.LawfulBEqCmp cmp := ⟨by simp⟩
    have hmem : k ∈ ExtTreeMap.ofList l cmp := by
      rw [ExtTreeMap.mem_iff_isSome_getElem?, h]
      rfl
    rw [ExtTreeMap.mem_ofList, List.contains_iff_mem, List.mem_map] at hmem
    obtain ⟨⟨k', v⟩, hv, rfl⟩ := hmem
    have hget := ExtTreeMap.getElem?_ofList_of_mem Std.ReflCmp.compare_self hdistinct hv
    rw [h] at hget
    rwa [Option.some.inj hget]
  · intro h
    exact ExtTreeMap.getElem?_ofList_of_mem Std.ReflCmp.compare_self hdistinct h

theorem parseEntries_ok (f : κ → α → Except ε β) (m : ExtTreeMap κ α cmp) (m' : ExtTreeMap κ β cmp)
    (h : parseEntries f m = .ok m') :
    ∃ l, m.toList.mapM (parseEntry f) = .ok l ∧ ∀ k b, m'[k]? = some b ↔ (k, b) ∈ l := by
  cases hl : m.toList.mapM (parseEntry f) with
  | error e => rw [parseEntries, hl] at h; cases h
  | ok l =>
    rw [parseEntries, hl] at h
    obtain rfl := Except.ok.inj h
    refine ⟨l, rfl, fun k b => getElem?_ofList_eq_some l ?_ k b⟩
    rw [map_fst_of_mapM_parseEntry f _ _ hl, ExtTreeMap.map_fst_toList_eq_keys]
    exact ExtTreeMap.nodup_keys

theorem parseEntries_source (f : κ → α → Except ε β) (m : ExtTreeMap κ α cmp) (m' : ExtTreeMap κ β cmp)
    (h : parseEntries f m = .ok m') (k : κ) (b : β) (hb : m'[k]? = some b) :
    ∃ a, m[k]? = some a ∧ f k a = .ok b := by
  obtain ⟨l, hl, hget⟩ := parseEntries_ok f m m' h
  obtain ⟨⟨k', a⟩, hp, hpq⟩ := mem_of_forall₂_ok _ _ _ (forall₂_of_mapM_ok _ _ _ hl) _ ((hget k b).mp hb)
  obtain ⟨rfl, hfa⟩ := (parseEntry_ok f _ _).mp hpq
  exact ⟨a, ExtTreeMap.mem_toList_iff_getElem?_eq_some.mp hp, hfa⟩

theorem parseEntries_target (f : κ → α → Except ε β) (m : ExtTreeMap κ α cmp) (m' : ExtTreeMap κ β cmp)
    (h : parseEntries f m = .ok m') (k : κ) (a : α) (ha : m[k]? = some a) :
    ∃ b, m'[k]? = some b ∧ f k a = .ok b := by
  obtain ⟨l, hl, hget⟩ := parseEntries_ok f m m' h
  obtain ⟨⟨k', b⟩, hp, hpq⟩ := exists_of_forall₂_ok _ _ _ (forall₂_of_mapM_ok _ _ _ hl) (k, a)
    (ExtTreeMap.mem_toList_iff_getElem?_eq_some.mpr ha)
  obtain ⟨rfl, hfa⟩ := (parseEntry_ok f _ _).mp hpq
  exact ⟨b, (hget k b).mpr hp, hfa⟩

theorem parseEntries_none (f : κ → α → Except ε β) (m : ExtTreeMap κ α cmp) (m' : ExtTreeMap κ β cmp)
    (h : parseEntries f m = .ok m') (k : κ) : m'[k]? = none ↔ m[k]? = none := by
  constructor
  · intro hk
    cases ha : m[k]? with
    | none => rfl
    | some a =>
      obtain ⟨b, hb, _⟩ := parseEntries_target f m m' h k a ha
      rw [hk] at hb
      cases hb
  · intro hk
    cases hb : m'[k]? with
    | none => rfl
    | some b =>
      obtain ⟨a, ha, _⟩ := parseEntries_source f m m' h k b hb
      rw [hk] at ha
      cases ha

omit [LawfulEqCmp cmp] in
theorem filterMap_toList_eq (f : κ → α → Option β) (m : ExtTreeMap κ α cmp) :
    m.toList.filterMap (fun p => f p.1 p.2) = (m.filterMap f).toList.map Prod.snd := by
  rw [ExtTreeMap.toList_filterMap, List.map_filterMap]
  simp [Function.comp_def]

theorem filterMap_toList_congr (f f' : κ → α → Option β) (m m' : ExtTreeMap κ α cmp)
    (h : ∀ k, m'[k]?.bind (f' k) = m[k]?.bind (f k)) :
    m'.toList.filterMap (fun p => f' p.1 p.2) = m.toList.filterMap (fun p => f p.1 p.2) := by
  have hmaps : m'.filterMap f' = m.filterMap f := by
    refine ExtTreeMap.ext_getElem? (fun k => ?_)
    rw [ExtTreeMap.getElem?_filterMap', ExtTreeMap.getElem?_filterMap', h]
  rw [filterMap_toList_eq, filterMap_toList_eq, hmaps]

end Acdp.Foundation.Entries
