import Mathlib.Data.List.Chain
import Mathlib.Data.List.Lex
import Mathlib.Data.List.Nodup
import Mathlib.Data.List.Perm.Subperm
import Mathlib.Data.Option.Basic
import Mathlib.Order.Basic

namespace Acdp.Foundation.Distance

variable {α : Type} (edge : α → α → Prop) (start : α → Prop)

inductive ReachIn : ℕ → α → Prop
  | start (x : α) (h : start x) : ReachIn 0 x
  | step (n : ℕ) (x y : α) (h : ReachIn n x) (hedge : edge x y) : ReachIn (n + 1) y

def IsDistance (n : ℕ) (x : α) : Prop := ReachIn edge start n x ∧ ∀ m, ReachIn edge start m x → n ≤ m

/-- What makes a partial labelling of the points one by distances. -/
structure Labels (label : α → Option ℕ) : Prop where
  zero : ∀ x, label x = some 0 → start x
  origin : ∀ x n, start x → label x = some n → n = 0
  parent : ∀ x n, label x = some (n + 1) → ∃ y, label y = some n ∧ edge y x
  source : ∀ x y, edge x y → ∃ n, label x = some n ∧ ∀ m, label y = some m → m ≤ n + 1

theorem Labels.reachIn {label : α → Option ℕ} (h : Labels edge start label) (n : ℕ) (x : α)
    (hx : label x = some n) : ReachIn edge start n x := by
  induction n generalizing x with
  | zero => exact .start x (h.zero x hx)
  | succ n ih =>
    obtain ⟨y, hy, hedge⟩ := h.parent x n hx
    exact .step n y x (ih y hy) hedge

theorem Labels.le_of_reachIn {label : α → Option ℕ} (h : Labels edge start label) (m : ℕ) (x : α)
    (hreach : ReachIn edge start m x) (n : ℕ) (hx : label x = some n) : n ≤ m := by
  induction hreach generalizing n with
  | start x hstart => rw [h.origin x n hstart hx]
  | step m x y _ hedge ih =>
    obtain ⟨k, hk, hle⟩ := h.source x y hedge
    have hn := hle n hx
    have hk := ih k hk
    omega

theorem Labels.isDistance {label : α → Option ℕ} (h : Labels edge start label) (n : ℕ) (x : α)
    (hx : label x = some n) : IsDistance edge start n x :=
  ⟨h.reachIn edge start n x hx, fun m hm => h.le_of_reachIn edge start m x hm n hx⟩

theorem Labels.exists_of_le {label : α → Option ℕ} (h : Labels edge start label) (n : ℕ) (x : α)
    (hx : label x = some n) (m : ℕ) (hm : m ≤ n) : ∃ y, label y = some m := by
  induction n generalizing x with
  | zero => exact ⟨x, by rwa [Nat.le_zero.mp hm]⟩
  | succ n ih =>
    by_cases heq : m = n + 1
    · exact ⟨x, heq ▸ hx⟩
    · obtain ⟨y, hy, -⟩ := h.parent x n hx
      exact ih y hy (by omega)

theorem Labels.lt_length {label : α → Option ℕ} (h : Labels edge start label) (points : List α)
    (hpoints : ∀ x n, label x = some n → x ∈ points) (n : ℕ) (x : α) (hx : label x = some n) :
    n < points.length := by
  have hsubset : (List.range (n + 1)).map some ⊆ points.map label := by
    intro m hm
    obtain ⟨m, hrange, rfl⟩ := List.mem_map.mp hm
    obtain ⟨y, hy⟩ := h.exists_of_le edge start n x hx m (Nat.le_of_lt_succ (List.mem_range.mp hrange))
    exact List.mem_map.mpr ⟨y, hpoints y m hy, hy⟩
  have hnodup : ((List.range (n + 1)).map some).Nodup :=
    List.Nodup.map (Option.some_injective ℕ) List.nodup_range
  have hle := (List.subperm_of_subset hnodup hsubset).length_le
  rw [List.length_map, List.length_map, List.length_range] at hle
  exact hle

section Paths

variable (inside : α → Prop)

structure IsPath (p : List α) (x : α) : Prop where
  start : ∃ r, start r ∧ p.head? = some r
  inside : ∀ y ∈ p, inside y
  edges : p.IsChain edge
  last : p.getLast? = some x

theorem isPath_singleton (r : α) (hstart : start r) (hinside : inside r) : IsPath edge start inside [r] r :=
  ⟨⟨r, hstart, rfl⟩, by simpa using hinside, List.isChain_singleton r, rfl⟩

theorem IsPath.concat {p : List α} {x : α} (h : IsPath edge start inside p x) (y : α) (hedge : edge x y)
    (hinside : inside y) : IsPath edge start inside (p ++ [y]) y := by
  refine ⟨?_, ?_, ?_, List.getLast?_concat⟩
  · obtain ⟨r, hr, hhead⟩ := h.start
    exact ⟨r, hr, by rw [List.head?_append, hhead, Option.some_or]⟩
  · intro z hz
    rcases List.mem_append.mp hz with hz | hz
    · exact h.inside z hz
    · exact List.mem_singleton.mp hz ▸ hinside
  · refine h.edges.append (List.isChain_singleton y) (fun a ha b hb => ?_)
    obtain rfl : x = a := Option.some.inj (h.last.symm.trans ha)
    obtain rfl : y = b := Option.some.inj hb
    exact hedge

theorem IsPath.eq_singleton {p : List α} {x : α} (h : IsPath edge start inside p x) (hlength : p.length = 1) :
    p = [x] ∧ start x := by
  obtain ⟨y, rfl⟩ := List.length_eq_one_iff.mp hlength
  obtain rfl : y = x := Option.some.inj h.last
  obtain ⟨r, hr, hhead⟩ := h.start
  obtain rfl : y = r := Option.some.inj hhead
  exact ⟨rfl, hr⟩

theorem IsPath.exists_concat {p : List α} {x : α} {n : ℕ} (h : IsPath edge start inside p x)
    (hlength : p.length = n + 2) :
    ∃ q y, p = q ++ [x] ∧ q.length = n + 1 ∧ IsPath edge start inside q y ∧ edge y x ∧ inside y := by
  obtain ⟨q, z, rfl⟩ : ∃ q z, p = q ++ [z] := by
    rcases List.eq_nil_or_concat' p with rfl | hp
    · simp at hlength
    · exact hp
  obtain rfl : z = x := Option.some.inj (List.getLast?_concat.symm.trans h.last)
  have hq : q.length = n + 1 := by
    rw [List.length_append, List.length_singleton] at hlength
    omega
  obtain ⟨y, hy⟩ : ∃ y, q.getLast? = some y := by
    cases hlast : q.getLast? with
    | none => simp [List.getLast?_eq_none_iff.mp hlast] at hq
    | some y => exact ⟨y, rfl⟩
  obtain ⟨hchain, -, hedge⟩ := List.isChain_append.mp h.edges
  refine ⟨q, y, rfl, hq, ⟨?_, fun a ha => h.inside a (List.mem_append_left _ ha), hchain, hy⟩,
    hedge y hy z rfl, h.inside y (List.mem_append_left _ (List.mem_of_getLast? hy))⟩
  obtain ⟨r, hr, hhead⟩ := h.start
  cases q with
  | nil => simp at hq
  | cons a q => exact ⟨r, hr, hhead⟩

theorem IsPath.reachIn {p : List α} {x : α} {n : ℕ} (h : IsPath edge start inside p x)
    (hlength : p.length = n + 1) : ReachIn edge start n x := by
  induction n generalizing p x with
  | zero => exact .start x (h.eq_singleton edge start inside hlength).2
  | succ n ih =>
    obtain ⟨q, y, -, hq, hpath, hedge, -⟩ := h.exists_concat edge start inside hlength
    exact .step n y x (ih hpath hq) hedge

section Least

variable [LinearOrder α]

structure IsLeastPath (n : ℕ) (x : α) (p : List α) : Prop where
  path : IsPath edge start inside p x
  length : p.length = n + 1
  least : ∀ q, IsPath edge start inside q x → q.length = n + 1 → p ≤ q

theorem concat_le_concat {p q : List α} (hlength : p.length = q.length) (hle : p ≤ q) (x : α) :
    p ++ [x] ≤ q ++ [x] := by
  rcases hle.lt_or_eq with hlt | rfl
  · refine le_of_lt ?_
    clear hle
    induction p generalizing q with
    | nil => simp [List.length_eq_zero_iff.mp hlength.symm] at hlt
    | cons a p ih =>
      cases q with
      | nil => simp at hlength
      | cons b q =>
        rcases List.cons_lt_cons_iff.mp hlt with hab | ⟨rfl, hpq⟩
        · exact List.cons_lt_cons_iff.mpr (.inl hab)
        · exact List.cons_lt_cons_iff.mpr (.inr ⟨rfl, ih (by simpa using hlength) hpq⟩)
  · exact le_rfl

theorem isLeastPath_singleton (r : α) (hstart : start r) (hinside : inside r) :
    IsLeastPath edge start inside 0 r [r] :=
  ⟨isPath_singleton edge start inside r hstart hinside, rfl,
    fun _ hq hlength => (hq.eq_singleton edge start inside hlength).1.ge⟩

theorem Labels.isLeastPath_concat {label : α → Option ℕ} (h : Labels edge start label)
    (hinside : ∀ x, inside x → ∃ n, label x = some n) (n : ℕ) (x y : α) (p : List α)
    (hx : label x = some (n + 1))
    (hin : inside x) (hp : IsLeastPath edge start inside n y p) (hedge : edge y x)
    (hleast : ∀ z, label z = some n → edge z x →
      ∃ q, IsLeastPath edge start inside n z q ∧ p ++ [x] ≤ q ++ [x]) :
    IsLeastPath edge start inside (n + 1) x (p ++ [x]) := by
  refine ⟨hp.path.concat edge start inside x hedge hin, by simp [hp.length], fun q hq hlength => ?_⟩
  obtain ⟨q, z, rfl, hlength, hpath, hzx, hz⟩ := hq.exists_concat edge start inside hlength
  obtain ⟨m, hm⟩ := hinside z hz
  have hle := h.le_of_reachIn edge start n z (hpath.reachIn edge start inside hlength) m hm
  obtain ⟨m', hm', hge⟩ := h.source z x hzx
  obtain rfl : m' = m := Option.some.inj (hm'.symm.trans hm)
  have hge := hge (n + 1) hx
  obtain rfl : m' = n := by omega
  obtain ⟨q', hq', hpq⟩ := hleast z hm hzx
  refine hpq.trans (concat_le_concat ?_ (hq'.least q hpath hlength) x)
  rw [hq'.length, hlength]

end Least

end Paths

end Acdp.Foundation.Distance
