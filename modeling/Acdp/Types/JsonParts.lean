import Acdp.Foundation.Related
import Acdp.Types.JsonSame

namespace Acdp.Types.Json

open Acdp.Foundation.Related

theorem asObject_eq_some_iff (v : Json) (members : List (String × Json)) :
    v.asObject = some members ↔ v = .obj members := by
  cases v <;> simp [asObject]

variable {p : Number → Prop} {r : Number → Number → Prop} {a b : Json}

/-- Two valid values that `Same` relates. -/
structure SameValid (p : Number → Prop) (r : Number → Number → Prop) (a b : Json) : Prop where
  left : Valid p a
  right : Valid p b
  same : Same r a b

namespace SameValid

theorem refl (hr : ∀ n, r n n) (h : Valid p a) : SameValid p r a a := ⟨h, h, same_refl p r hr a h⟩

theorem asStr (h : SameValid p r a b) : a.asStr = b.asStr := by
  have hsame := h.same
  cases a <;> cases b <;> simp_all [Same, Json.asStr]

theorem asBool (h : SameValid p r a b) : a.asBool = b.asBool := by
  have hsame := h.same
  cases a <;> cases b <;> simp_all [Same, Json.asBool]

theorem eq_null_iff (h : SameValid p r a b) : a = .null ↔ b = .null := by
  have hsame := h.same
  cases a <;> cases b <;> simp_all [Same]

theorem items (as bs : List Json) (h : SameValid p r (.arr as) (.arr bs)) :
    List.Forall₂ (SameValid p r) as bs := by
  obtain ⟨ha, hb, hsame⟩ := h
  rw [Same, sameItems_iff] at hsame
  rw [Valid, validItems_iff] at ha hb
  have hmem := (List.forall₂_and_left as bs).mpr ⟨fun v hv => hv, hsame⟩
  have hmem' := (List.forall₂_and_left bs as).mpr ⟨fun v hv => hv, hmem.flip⟩
  refine hmem'.flip.imp ?_
  rintro v w ⟨hw, hv, hvw⟩
  exact ⟨ha v hv, hb w hw, hvw⟩

theorem asArray (h : SameValid p r a b) : Option.Rel (List.Forall₂ (SameValid p r)) a.asArray b.asArray := by
  cases a with
  | arr as =>
    cases b with
    | arr bs => exact .some (items as bs h)
    | _ => exact absurd h.same (by simp [Same])
  | _ =>
    cases b with
    | arr bs => exact absurd h.same (by simp [Same])
    | _ => exact .none

theorem asObject (h : SameValid p r a b) :
    Option.Rel (fun as bs => SameValid p r (.obj as) (.obj bs)) a.asObject b.asObject := by
  cases a with
  | obj as =>
    cases b with
    | obj bs => exact .some h
    | _ => exact absurd h.same (by simp [Same])
  | _ =>
    cases b with
    | obj bs => exact absurd h.same (by simp [Same])
    | _ => exact .none

theorem lookup (as bs : List (String × Json)) (h : SameValid p r (.obj as) (.obj bs)) (k : String) :
    Option.Rel (SameValid p r) (as.lookup k) (bs.lookup k) := by
  obtain ⟨ha, hb, hsame⟩ := h
  rw [Valid, validMembers_iff] at ha hb
  have hk := (same_obj_iff_lookup _ as bs ha.1 hb.1).mp hsame k
  cases hv : as.lookup k with
  | none =>
    rw [hv] at hk
    cases hw : bs.lookup k with
    | none => exact .none
    | some w =>
      rw [hw] at hk
      cases hk
  | some v =>
    rw [hv] at hk
    cases hw : bs.lookup k with
    | none =>
      rw [hw] at hk
      cases hk
    | some w =>
      rw [hw] at hk
      cases hk with
      | some hvw =>
        exact .some ⟨ha.2 _ (mem_of_lookup k v as hv), hb.2 _ (mem_of_lookup k w bs hw), hvw⟩

end SameValid

theorem lookup_zip_rel {R : Json → Json → Prop} (names : List String) (as bs : List Json)
    (h : List.Forall₂ R as bs) (k : String) :
    Option.Rel R ((names.zip as).lookup k) ((names.zip bs).lookup k) := by
  induction h generalizing names with
  | nil =>
    rw [List.zip_nil_right]
    exact .none
  | @cons a b as bs hab _ ih =>
    cases names with
    | nil => exact .none
    | cons name names =>
      rw [List.zip_cons_cons, List.zip_cons_cons, List.lookup_cons, List.lookup_cons]
      split
      · exact .some hab
      · exact ih names

end Acdp.Types.Json
