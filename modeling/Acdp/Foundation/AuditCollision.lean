import Acdp.Foundation.AuditPath
import Acdp.Foundation.Collision

namespace Acdp.Foundation.AuditPath

variable {δ : Type}

def operands : Side → δ → δ → δ × δ
  | .left, p, r => (p, r)
  | .right, p, r => (r, p)

def hashed (node : δ → δ → δ) (r : δ) : List Side → List δ → List (δ × δ)
  | s :: ss, p :: ps => operands s p r :: hashed node (attach node s p r) ss ps
  | _, _ => []

theorem attach_eq (node : δ → δ → δ) (s : Side) (p r : δ) :
    attach node s p r = (fun x : δ × δ => node x.1 x.2) (operands s p r) := by
  cases s <;> rfl

theorem operands_inj (s : Side) (p p' r r' : δ) (h : operands s p r = operands s p' r') :
    p = p' ∧ r = r' := by
  cases s with
  | left => exact Prod.mk.inj h
  | right => exact (Prod.mk.inj h).symm

theorem climb_collision (node : δ → δ → δ) (ss : List Side) (ps ps' : List δ) (r r' t : δ)
    (h : climb node r ss ps = some t) (h' : climb node r' ss ps' = some t) :
    (r = r' ∧ ps = ps') ∨ Collision (fun x => node x.1 x.2) (hashed node r ss ps)
    (hashed node r' ss ps') := by
  induction ss generalizing r r' ps ps' with
  | nil =>
    cases ps with
    | cons p ps => simp [climb] at h
    | nil =>
      cases ps' with
      | cons p' ps' => simp [climb] at h'
      | nil => exact .inl ⟨Option.some.inj (h.trans h'.symm), rfl⟩
  | cons s ss ih =>
    cases ps with
    | nil => simp [climb] at h
    | cons p ps =>
      cases ps' with
      | nil => simp [climb] at h'
      | cons p' ps' =>
        rcases ih ps ps' _ _ h h' with ⟨ha, rfl⟩ | hcol
        · rw [attach_eq, attach_eq] at ha
          rcases eq_or_collision (f := fun x : δ × δ => node x.1 x.2) ha List.mem_cons_self
            List.mem_cons_self with
            hop | hcol
          · obtain ⟨rfl, rfl⟩ := operands_inj s p p' r r' hop
            exact .inl ⟨rfl, rfl⟩
          · exact .inr hcol
        · exact .inr (hcol.mono (List.subset_cons_self ..) (List.subset_cons_self ..))

end Acdp.Foundation.AuditPath
