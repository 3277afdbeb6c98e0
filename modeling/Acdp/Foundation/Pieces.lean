import Mathlib.Data.List.Flatten
import Mathlib.Data.List.Nodup
import Mathlib.Data.List.Perm.Subperm
import Mathlib.Data.List.Sort

namespace Acdp.Foundation.Pieces

variable {κ α β : Type}

section Sorted

variable (r q : κ → κ → Prop) [DecidableRel r] [DecidableRel q]

def sortBy (members : List (κ × α)) : List (κ × α) := members.insertionSort (fun a b => r a.1 b.1)

theorem sortBy_perm (members : List (κ × α)) : (sortBy r members).Perm members :=
  List.perm_insertionSort _ members

theorem mem_sortBy (members : List (κ × α)) (m : κ × α) : m ∈ sortBy r members ↔ m ∈ members :=
  (sortBy_perm r members).mem_iff

theorem map_sortBy {γ : Type} (f : α → γ) (members : List (κ × α)) :
    sortBy r (members.map (fun m => (m.1, f m.2))) = (sortBy r members).map (fun m => (m.1, f m.2)) := by
  symm
  apply List.map_insertionSort
  intro a _ b _
  rfl

theorem eq_of_key_eq (members : List (κ × α)) (h : (members.map Prod.fst).Nodup) (a b : κ × α)
    (ha : a ∈ members) (hb : b ∈ members) (hkey : a.1 = b.1) : a = b :=
  List.inj_on_of_nodup_map h ha hb hkey

variable [Std.Total r] [IsTrans κ r]

theorem sortBy_pairwise (members : List (κ × α)) : (sortBy r members).Pairwise (fun a b => r a.1 b.1) := by
  have : Std.Total (fun a b : κ × α => r a.1 b.1) := ⟨fun a b => Std.Total.total a.1 b.1⟩
  have : IsTrans (κ × α) (fun a b => r a.1 b.1) := ⟨fun _ _ _ => IsTrans.trans _ _ _⟩
  exact List.pairwise_insertionSort _ members

theorem flatMap_filter_ne_nil (f : α → List β) (l : List α) :
    (l.filter (fun a => !(f a).isEmpty)).flatMap f = l.flatMap f := by
  induction l with
  | nil => rfl
  | cons a l ih =>
    rw [List.filter_cons]
    split
    · rw [List.flatMap_cons, ih, List.flatMap_cons]
    next h =>
      have hnil : f a = [] := by simpa using h
      rw [ih, List.flatMap_cons, hnil, List.nil_append]

variable [Std.Antisymm r] [Std.Total q] [IsTrans κ q]

theorem flatMap_sortBy_congr (members : List (κ × α)) (hkeys : (members.map Prod.fst).Nodup)
    (f : κ × α → List β) (h : ∀ a ∈ members, ∀ b ∈ members, f a ≠ [] → f b ≠ [] → (q a.1 b.1 → r a.1 b.1)) :
    (sortBy q members).flatMap f = (sortBy r members).flatMap f := by
  rw [← flatMap_filter_ne_nil f (sortBy q members), ← flatMap_filter_ne_nil f (sortBy r members)]
  have hperm := ((sortBy_perm q members).trans (sortBy_perm r members).symm).filter (fun a => !(f a).isEmpty)
  have hq : ((sortBy q members).filter (fun a => !(f a).isEmpty)).Pairwise (fun a b => r a.1 b.1) := by
    refine ((sortBy_pairwise q members).filter _).imp_of_mem (fun {a b} ha hb hab => ?_)
    rw [List.mem_filter, mem_sortBy, Bool.not_eq_true', List.isEmpty_eq_false_iff] at ha hb
    exact h a ha.1 b hb.1 ha.2 hb.2 hab
  have hr := (sortBy_pairwise r members).filter (fun a => !(f a).isEmpty)
  refine congrArg (List.flatMap f) (hperm.eq_of_pairwise (fun a b ha hb hab hba => ?_) hq hr)
  have ha' := (mem_sortBy q members a).mp (List.mem_filter.mp ha).1
  have hb' := (mem_sortBy r members b).mp (List.mem_filter.mp hb).1
  exact eq_of_key_eq members hkeys a b ha' hb' (Std.Antisymm.antisymm _ _ hab hba)

end Sorted

section Before

theorem sublist_pair_or (l : List α) (a b : α) (ha : a ∈ l) (hb : b ∈ l) (hne : a ≠ b) :
    [a, b].Sublist l ∨ [b, a].Sublist l := by
  induction l with
  | nil => cases ha
  | cons c l ih =>
    rcases List.mem_cons.mp ha with rfl | ha'
    · have hb' := (List.mem_cons.mp hb).resolve_left (Ne.symm hne)
      exact .inl ((List.singleton_sublist.mpr hb').cons_cons a)
    · rcases List.mem_cons.mp hb with rfl | hb'
      · exact .inr ((List.singleton_sublist.mpr ha').cons_cons b)
      · exact (ih ha' hb').imp (·.cons c) (·.cons c)

theorem sublist_pair_sortBy (r : κ → κ → Prop) [DecidableRel r] [Std.Total r] [IsTrans κ r]
    (members : List (κ × α)) (a b : κ × α) (ha : a ∈ members) (hb : b ∈ members) (h : ¬ r b.1 a.1) :
    [a, b].Sublist (sortBy r members) := by
  have hne : a ≠ b := by
    rintro rfl
    exact h ((Std.Total.total a.1 a.1).elim id id)
  refine (sublist_pair_or _ a b ((mem_sortBy r members a).mpr ha) ((mem_sortBy r members b).mpr hb)
    hne).resolve_right ?_
  exact fun hba => h ((sortBy_pairwise r members).forall_sublist hba)

theorem sublist_pair_flatMap (l : List α) (f : α → List β) (a b : α) (h : [a, b].Sublist l) (x y : β)
    (hx : x ∈ f a) (hy : y ∈ f b) : [x, y].Sublist (l.flatMap f) := by
  have hpieces : (f a ++ f b).Sublist (l.flatMap f) := by
    simpa using h.flatMap f
  exact ((List.singleton_sublist.mpr hx).append (List.singleton_sublist.mpr hy)).trans hpieces

theorem not_sublist_both [DecidableEq α] (l : List α) (h : l.Nodup) (a b : α) (hab : [a, b].Sublist l)
    (hba : [b, a].Sublist l) : False := by
  have hne : a ≠ b := by
    have := hab.nodup h
    simpa using this
  have hpair (c d : α) (hcd : [c, d].Sublist l) (hsame : ∀ x, x ∈ [c, d] ↔ x ∈ [a, b]) :
      l.filter (· ∈ [a, b]) = [c, d] := by
    have hsub : [c, d].Sublist (l.filter (· ∈ [a, b])) := by
      have hfilter := hcd.filter (· ∈ [a, b])
      rwa [List.filter_eq_self.mpr (fun x hx => decide_eq_true ((hsame x).mp hx))] at hfilter
    refine (hsub.eq_of_length_le ?_).symm
    have hsubset : l.filter (· ∈ [a, b]) ⊆ [c, d] :=
      fun x hx => (hsame x).mpr (by simpa using (List.mem_filter.mp hx).2)
    exact (List.subperm_of_subset (h.filter _) hsubset).length_le
  have heq := (hpair a b hab (fun _ => Iff.rfl)).symm.trans (hpair b a hba (fun x => by simp [or_comm]))
  exact hne (List.cons.inj heq).1

theorem filter_mem_piece [DecidableEq β] (l : List α) (f : α → List β) (h : (l.flatMap f).Nodup) (a : α)
    (ha : a ∈ l) : (l.flatMap f).filter (· ∈ f a) = f a := by
  obtain ⟨before, after, rfl⟩ := List.append_of_mem ha
  rw [List.flatMap_append, List.flatMap_cons] at h ⊢
  obtain ⟨-, hrest, hbefore⟩ := List.nodup_append.mp h
  obtain ⟨-, -, hafter⟩ := List.nodup_append.mp hrest
  rw [List.filter_append, List.filter_append, List.filter_eq_nil_iff.mpr, List.filter_eq_self.mpr,
    List.filter_eq_nil_iff.mpr, List.nil_append, List.append_nil]
  · intro x hx hmem
    exact hafter x (by simpa using hmem) x hx rfl
  · exact fun x hx => decide_eq_true hx
  · intro x hx hmem
    exact hbefore x hx x (List.mem_append_left _ (by simpa using hmem)) rfl

theorem piece_eq [DecidableEq β] (l l' : List α) (f g : α → List β) (h : (l.flatMap f).Nodup)
    (heq : l'.flatMap g = l.flatMap f) (hperm : ∀ a ∈ l, (g a).Perm (f a)) (a : α) (ha : a ∈ l)
    (ha' : a ∈ l') :
    g a = f a := by
  have hg := filter_mem_piece l' g (heq ▸ h) a ha'
  have hf := filter_mem_piece l f h a ha
  simp only [heq, (hperm a ha).mem_iff] at hg
  exact hg.symm.trans hf

end Before

end Acdp.Foundation.Pieces
