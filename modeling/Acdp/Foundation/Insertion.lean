import Mathlib.Data.List.Forall2

namespace Acdp.Foundation.Insertion

variable {α β ε : Type}

inductive Inserted (P : α → Prop) : List α → List α → Prop
  | nil : Inserted P [] []
  | keep {l l' : List α} (a : α) : Inserted P l l' → Inserted P (a :: l) (a :: l')
  | add {l l' : List α} (a : α) : P a → Inserted P l l' → Inserted P l (a :: l')

theorem Inserted.refl (P : α → Prop) (l : List α) : Inserted P l l := by
  induction l with
  | nil => exact .nil
  | cons a l ih => exact .keep a ih

theorem Inserted.filter_eq {P : α → Prop} {l l' : List α} (h : Inserted P l l') (p : α → Bool)
    (hp : ∀ a, P a → p a = false) : l'.filter p = l.filter p := by
  induction h with
  | nil => rfl
  | keep a _ ih => rw [List.filter_cons, List.filter_cons, ih]
  | add a ha _ ih => rw [List.filter_cons, hp a ha, if_neg Bool.false_ne_true, ih]

theorem Inserted.map_ok {P : α → Prop} {Q : β → Prop} {l l' : List α} (h : Inserted P l l')
    (f : α → Except ε β) (hPQ : ∀ a b, P a → f a = .ok b → Q b) (m m' : List β)
    (hm : List.Forall₂ (fun a b => f a = .ok b) l m) (hm' : List.Forall₂ (fun a b => f a = .ok b) l' m') :
    Inserted Q m m' := by
  induction h generalizing m m' with
  | nil =>
    cases hm
    cases hm'
    exact .nil
  | keep a _ ih =>
    cases hm with
    | @cons _ b _ m hab hm =>
      cases hm' with
      | @cons _ b' _ m' hab' hm' =>
        obtain rfl := Except.ok.inj (hab.symm.trans hab')
        exact .keep b (ih m m' hm hm')
  | add a ha _ ih =>
    cases hm' with
    | @cons _ b _ m' hab hm' => exact .add b (hPQ a b ha hab) (ih m m' hm hm')

end Acdp.Foundation.Insertion
