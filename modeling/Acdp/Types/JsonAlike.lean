import Acdp.Jcs.Number
import Acdp.Types.JsonParts

namespace Acdp.Types.Json

open Acdp.Foundation.Related
open Acdp.Jcs (NumberValid)

section Equality

theorem numberEq_refl (n : Number) : numberEq n n = true := by
  cases n <;> simp [numberEq]

theorem numberEq_symm (m n : Number) (h : numberEq m n = true) : numberEq n m = true := by
  cases m <;> cases n <;> simp only [numberEq, beq_iff_eq, Bool.or_eq_true, Bool.and_eq_true] at h ⊢
  all_goals first | exact h.symm | skip
  rcases h with rfl | ⟨hm, hn⟩
  · exact Or.inl rfl
  · exact Or.inr ⟨hn, hm⟩

theorem numberEq_trans (m n o : Number) (hmn : numberEq m n = true) (hno : numberEq n o = true) :
    numberEq m o = true := by
  cases m <;> cases n <;> cases o <;> simp_all [numberEq]
  rcases hmn with rfl | ⟨hm, hn⟩
  · exact hno
  · rcases hno with rfl | ⟨-, ho⟩
    · exact Or.inr ⟨hm, hn⟩
    · exact Or.inr ⟨hm, ho⟩

variable (p : Number → Prop) (r : Number → Number → Prop)

theorem same_trans (hr : ∀ m n o, r m n → r n o → r m o) (a b c : Json) (ha : Valid p a) (hb : Valid p b)
    (hc : Valid p c) (hab : Same r a b) (hbc : Same r b c) : Same r a c := by
  induction a using induction generalizing b c with
  | null =>
    cases b with
    | null => exact hbc
    | _ => simp [Same] at hab
  | bool x =>
    cases b with
    | bool y =>
      rw [Same] at hab
      rwa [hab]
    | _ => simp [Same] at hab
  | num n =>
    cases b with
    | num m =>
      cases c with
      | num o =>
        rw [Same] at hab hbc ⊢
        exact hr n m o hab hbc
      | _ => simp [Same] at hbc
    | _ => simp [Same] at hab
  | str s =>
    cases b with
    | str t =>
      rw [Same] at hab
      rwa [hab]
    | _ => simp [Same] at hab
  | arr items ih =>
    cases b with
    | arr items' =>
      cases c with
      | arr items'' =>
        rw [Same, sameItems_iff] at hab hbc ⊢
        rw [Valid, validItems_iff] at ha hb hc
        induction hab generalizing items'' with
        | nil =>
          cases hbc
          exact .nil
        | @cons v w vs ws hvw _ ihrest =>
          cases hbc with
          | @cons _ x _ xs hwx hrest =>
            refine .cons ?_ ?_
            · exact ih v List.mem_cons_self w x (ha v List.mem_cons_self) (hb w List.mem_cons_self)
                (hc x List.mem_cons_self) hvw hwx
            · exact ihrest (fun u hu => ih u (List.mem_cons_of_mem _ hu))
                (fun u hu => ha u (List.mem_cons_of_mem _ hu))
                (fun u hu => hb u (List.mem_cons_of_mem _ hu)) xs
                (fun u hu => hc u (List.mem_cons_of_mem _ hu)) hrest
      | _ => simp [Same] at hbc
    | _ => simp [Same] at hab
  | obj members ih =>
    cases b with
    | obj members' =>
      cases c with
      | obj members'' =>
        rw [Valid, validMembers_iff] at ha hb hc
        rw [same_obj_iff_lookup r _ _ ha.1 hb.1] at hab
        rw [same_obj_iff_lookup r _ _ hb.1 hc.1] at hbc
        rw [same_obj_iff_lookup r _ _ ha.1 hc.1]
        intro k
        have hab := hab k
        have hbc := hbc k
        cases hv : members.lookup k with
        | none =>
          rw [hv] at hab
          cases hw : members'.lookup k with
          | none =>
            rw [hw] at hbc
            cases hx : members''.lookup k with
            | none => exact .none
            | some x =>
              rw [hx] at hbc
              cases hbc
          | some w =>
            rw [hw] at hab
            cases hab
        | some v =>
          rw [hv] at hab
          cases hw : members'.lookup k with
          | none =>
            rw [hw] at hab
            cases hab
          | some w =>
            rw [hw] at hab hbc
            cases hx : members''.lookup k with
            | none =>
              rw [hx] at hbc
              cases hbc
            | some x =>
              rw [hx] at hbc
              cases hab with
              | some hvw =>
                cases hbc with
                | some hwx =>
                  have hmem := mem_of_lookup k v members hv
                  exact .some (ih (k, v) hmem w x (ha.2 _ hmem) (hb.2 _ (mem_of_lookup k w members' hw))
                    (hc.2 _ (mem_of_lookup k x members'' hx)) hvw hwx)
      | _ => simp [Same] at hbc
    | _ => simp [Same] at hab

end Equality

def Alike (a b : Json) : Prop :=
  a = b ∨ (Valid NumberValid a ∧ Valid NumberValid b ∧ Same (fun m n => numberEq m n = true) a b)

namespace Alike

variable {a b : Json}

theorem refl (a : Json) : Alike a a := Or.inl rfl

theorem symm (h : Alike a b) : Alike b a := by
  rcases h with rfl | ⟨ha, hb, h⟩
  · exact refl a
  · exact Or.inr ⟨hb, ha, same_symm _ _ numberEq_symm a b ha hb h⟩

theorem trans {c : Json} (hab : Alike a b) (hbc : Alike b c) : Alike a c := by
  rcases hab with rfl | ⟨ha, hb, hab⟩
  · exact hbc
  · rcases hbc with rfl | ⟨-, hc, hbc⟩
    · exact Or.inr ⟨ha, hb, hab⟩
    · exact Or.inr ⟨ha, hc, same_trans _ _ numberEq_trans a b c ha hb hc hab hbc⟩

theorem option_refl (x : Option Json) : Option.Rel Alike x x := by
  cases x with
  | none => exact .none
  | some v => exact .some (refl v)

theorem items_refl (items : List Json) : List.Forall₂ Alike items items :=
  List.forall₂_same.mpr (fun v _ => refl v)

theorem of_sameValid (h : SameValid NumberValid (fun m n => numberEq m n = true) a b) : Alike a b :=
  Or.inr ⟨h.left, h.right, h.same⟩

theorem asStr (h : Alike a b) : a.asStr = b.asStr := by
  rcases h with rfl | ⟨ha, hb, h⟩
  · rfl
  · exact SameValid.asStr ⟨ha, hb, h⟩

theorem asBool (h : Alike a b) : a.asBool = b.asBool := by
  rcases h with rfl | ⟨ha, hb, h⟩
  · rfl
  · exact SameValid.asBool ⟨ha, hb, h⟩

theorem asArray (h : Alike a b) : Option.Rel (List.Forall₂ Alike) a.asArray b.asArray := by
  rcases h with rfl | ⟨ha, hb, h⟩
  · cases a.asArray with
    | none => exact .none
    | some items => exact .some (items_refl items)
  · have hitems := SameValid.asArray ⟨ha, hb, h⟩
    revert hitems
    generalize a.asArray = x
    generalize b.asArray = y
    intro hitems
    cases hitems with
    | none => exact .none
    | some hitems => exact .some (hitems.imp (fun _ _ => of_sameValid))

theorem asObject (h : Alike a b) : Option.Rel (fun as bs => Alike (.obj as) (.obj bs)) a.asObject
    b.asObject := by
  rcases h with rfl | ⟨ha, hb, h⟩
  · cases a with
    | obj members => exact .some (refl _)
    | _ => exact .none
  · have hmembers := SameValid.asObject ⟨ha, hb, h⟩
    revert hmembers
    generalize a.asObject = x
    generalize b.asObject = y
    intro hmembers
    cases hmembers with
    | none => exact .none
    | some hmembers => exact .some (of_sameValid hmembers)

theorem lookup (as bs : List (String × Json)) (h : Alike (.obj as) (.obj bs)) (k : String) :
    Option.Rel Alike (as.lookup k) (bs.lookup k) := by
  rcases h with h | ⟨ha, hb, h⟩
  · cases h
    exact option_refl _
  · have hk := SameValid.lookup as bs ⟨ha, hb, h⟩ k
    revert hk
    generalize as.lookup k = x
    generalize bs.lookup k = y
    intro hk
    cases hk with
    | none => exact .none
    | some hvw => exact .some (of_sameValid hvw)

theorem get (h : Alike a b) (k : String) : Option.Rel Alike (a.get k) (b.get k) :=
  bind_rel _ _ _ _ h.asObject (fun as bs hmembers => lookup as bs hmembers k)

end Alike

end Acdp.Types.Json
