import Mathlib.Order.Defs.Unbundled

namespace Acdp.Foundation.Transition

variable {σ ι ο : Type*}

def runState (step : ι → σ → ο × σ) : List ι → σ → σ
  | [], s => s
  | i :: is, s => runState step is (step i s).2

theorem runState_append (step : ι → σ → ο × σ) (is js : List ι) (s : σ) :
    runState step (is ++ js) s = runState step js (runState step is s) := by
  induction is generalizing s with
  | nil => rfl
  | cons i is ih => exact ih (step i s).2

theorem runState_invariant (step : ι → σ → ο × σ) (admissible : ι → Prop) (P : σ → Prop)
    (hstep : ∀ i s, admissible i → P s → P (step i s).2) (is : List ι) (s : σ)
    (his : ∀ i ∈ is, admissible i) (hs : P s) : P (runState step is s) := by
  induction is generalizing s with
  | nil => exact hs
  | cons i is ih =>
    exact ih _ (fun j hj => his j (List.mem_cons_of_mem _ hj))
      (hstep i s (his i List.mem_cons_self) hs)

theorem runState_extends (step : ι → σ → ο × σ) (R : σ → σ → Prop) [Std.Refl R] [IsTrans σ R]
    (hstep : ∀ i s, R s (step i s).2) (is : List ι) (s : σ) : R s (runState step is s) := by
  induction is generalizing s with
  | nil => exact refl_of R s
  | cons i is ih => exact trans_of R (hstep i s) (ih _)

theorem foldl_invariant {α : Type*} (f : σ → α → σ) (P : List α → σ → Prop)
    (hstep : ∀ done a s, P done s → P (done ++ [a]) (f s a)) (l done : List α) (s : σ) (hs : P done s) :
    P (done ++ l) (l.foldl f s) := by
  induction l generalizing done s with
  | nil =>
    rw [List.append_nil]
    exact hs
  | cons a l ih =>
    rw [List.append_cons]
    exact ih (done ++ [a]) (f s a) (hstep done a s hs)

theorem foldlM_ok_invariant {ε α : Type*} (f : σ → α → Except ε σ) (P : List α → σ → Prop)
    (hstep : ∀ done a s s', P done s → f s a = .ok s' → P (done ++ [a]) s') (l done : List α) (s s' : σ)
    (hs : P done s) (h : l.foldlM f s = .ok s') : P (done ++ l) s' := by
  induction l generalizing done s with
  | nil =>
    obtain rfl := Except.ok.inj h
    rw [List.append_nil]
    exact hs
  | cons a l ih =>
    rw [List.foldlM_cons] at h
    cases ha : f s a with
    | error e =>
      rw [ha] at h
      cases h
    | ok t =>
      rw [ha] at h
      rw [List.append_cons]
      exact ih (done ++ [a]) t (hstep done a s t hs ha) h

end Acdp.Foundation.Transition
