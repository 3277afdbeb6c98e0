import Mathlib.Data.List.Basic

namespace Acdp.Foundation

/-- A cache of bounded capacity, the entry used last in front. -/
structure Lru (κ α : Type*) where
  capacity : ℕ
  entries : List (κ × α)

namespace Lru

variable {κ α : Type*} [DecidableEq κ]

def empty (capacity : ℕ) : Lru κ α := ⟨capacity, []⟩

def peek (c : Lru κ α) (k : κ) : Option α := (c.entries.find? (fun e => e.1 = k)).map (·.2)

def promote (c : Lru κ α) (k : κ) : Lru κ α :=
  match c.peek k with
  | some v => { c with entries := (k, v) :: c.entries.filter (fun e => e.1 ≠ k) }
  | none => c

def put (c : Lru κ α) (k : κ) (v : α) : Lru κ α :=
  { c with entries := ((k, v) :: c.entries.filter (fun e => e.1 ≠ k)).take c.capacity }

def pop (c : Lru κ α) (k : κ) : Lru κ α := { c with entries := c.entries.filter (fun e => e.1 ≠ k) }

theorem find?_filter_ne (l : List (κ × α)) (j k : κ) (h : j ≠ k) :
    (l.filter (fun e => e.1 ≠ k)).find? (fun e => e.1 = j) = l.find? (fun e => e.1 = j) := by
  rw [List.find?_filter]
  refine congrArg (fun p => l.find? p) (funext fun e => ?_)
  by_cases he : e.1 = j
  · simp [he, h]
  · simp [he]

theorem peek_pop_ne (c : Lru κ α) (j k : κ) (h : j ≠ k) : (c.pop k).peek j = c.peek j := by
  rw [peek, pop, find?_filter_ne _ _ _ h, peek]

theorem peek_pop_self (c : Lru κ α) (k : κ) : (c.pop k).peek k = none := by
  rw [peek, pop, List.find?_eq_none.mpr]
  · rfl
  · intro e he
    have := (List.mem_filter.mp he).2
    simpa using this

@[simp]
theorem peek_promote (c : Lru κ α) (j k : κ) : (c.promote k).peek j = c.peek j := by
  rw [promote]
  split
  · next v hv =>
    by_cases hj : j = k
    · subst hj
      rw [hv]
      simp [peek]
    · have hk : k ≠ j := fun hkj => hj hkj.symm
      simp only [peek, List.find?_cons, hk, decide_false]
      rw [find?_filter_ne _ _ _ hj]
  · rfl

theorem peek_put (c : Lru κ α) (j k : κ) (v e : α) (h : (c.put k v).peek j = some e) :
    (j = k ∧ e = v) ∨ (j ≠ k ∧ c.peek j = some e) := by
  rw [peek, put, Option.map_eq_some_iff] at h
  obtain ⟨⟨i, e'⟩, hfind, rfl⟩ := h
  have hwhole : ((k, v) :: c.entries.filter (fun e => e.1 ≠ k)).find? (fun e => e.1 = j) = some (i, e') :=
    (List.take_prefix _ _).find?_eq_some hfind
  rw [List.find?_cons] at hwhole
  by_cases hj : j = k
  · subst hj
    simp only [decide_true, Option.some.injEq, Prod.mk.injEq] at hwhole
    exact .inl ⟨rfl, hwhole.2.symm⟩
  · have hk : k ≠ j := fun hkj => hj hkj.symm
    simp only [hk, decide_false, find?_filter_ne _ _ _ hj] at hwhole
    exact .inr ⟨hj, by rw [peek, hwhole]; rfl⟩

end Lru

end Acdp.Foundation
