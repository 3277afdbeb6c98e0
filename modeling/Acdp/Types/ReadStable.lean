import Acdp.Jcs.Injective
import Acdp.Types.DecodeRoundTrip
import Acdp.Types.JsonParts

namespace Acdp.Types

open Acdp.Jcs (FloatFormat NumberValid SameNumber render render_eq_of_same writeNumber)
open Acdp.Types.Json (Valid Same SameValid)

variable (fmt : FloatFormat) {α β : Type}

abbrev JcsSame : Json → Json → Prop := SameValid NumberValid (SameNumber fmt)

theorem JcsSame.render_eq {fmt : FloatFormat} {v w : Json} (h : JcsSame fmt v w) :
    render fmt v = render fmt w :=
  render_eq_of_same fmt v w h.left h.right h.same

def LookupSame (members members' : List (String × Json)) : Prop :=
  ∀ k, Option.Rel (JcsSame fmt) (members.lookup k) (members'.lookup k)

/-- What the reader makes of two values that are equal up to JCS looks the same. -/
def Stable (read : Json → Option α) (view : α → β) : Prop :=
  ∀ v w, JcsSame fmt v w → ∀ x y, read v = some x → read w = some y → view x = view y

variable {fmt}

theorem stable_of_eq (read : Json → Option α) (h : ∀ v w, JcsSame fmt v w → read v = read w) :
    Stable fmt read id := by
  intro v w hvw x y hx hy
  rw [h v w hvw, hy] at hx
  exact (Option.some.inj hx).symm

theorem stable_asStr : Stable fmt Json.asStr id := stable_of_eq _ (fun _ _ h => h.asStr)

theorem stable_of_text (f : String → Option α) : Stable fmt (fun v => v.asStr.bind f) id :=
  stable_of_eq _ (fun _ _ h => by rw [h.asStr])

theorem unitVariant_member (k : String) (v : Json) :
    Json.unitVariant (.obj [(k, v)]) = if v = .null then some k else none := by
  cases v <;> simp [Json.unitVariant]

theorem unitVariant_eq (v w : Json) (h : JcsSame fmt v w) : v.unitVariant = w.unitVariant := by
  have hsame := h.same
  cases v with
  | str s =>
    cases w with
    | str t =>
      rw [Same] at hsame
      rw [hsame]
    | _ => simp [Same] at hsame
  | obj as =>
    cases w with
    | obj bs =>
      rw [Same] at hsame
      have hlen := hsame.1
      rcases as with _ | ⟨⟨k, v⟩, _ | ⟨m, rest⟩⟩
      · rw [List.eq_nil_of_length_eq_zero hlen.symm]
      · obtain ⟨⟨l, w⟩, rfl⟩ := List.length_eq_one_iff.mp hlen.symm
        have hk := SameValid.lookup _ _ h k
        rw [List.lookup_cons_self, List.lookup_cons] at hk
        split at hk
        next heq =>
          obtain rfl := eq_of_beq heq
          cases hk with
          | some hvw =>
            rw [unitVariant_member, unitVariant_member]
            simp only [hvw.eq_null_iff]
        · cases hk
      · rcases bs with _ | ⟨m', _ | ⟨n', rest'⟩⟩
        · cases hlen
        · simp at hlen
        · simp [Json.unitVariant]
    | _ => simp [Same] at hsame
  | _ =>
    cases w with
    | null | bool | num | arr => rfl
    | _ => simp [Same] at hsame

theorem stable_of_variant (f : String → Option α) : Stable fmt (fun v => v.unitVariant.bind f) id :=
  stable_of_eq _ (fun v w h => by rw [unitVariant_eq v w h])

theorem asUInt_eq_some (bits : ℕ) (v : Json) (n : ℕ) (h : Json.asUInt bits v = some n) :
    ∃ m : UInt64, v = .num (.posInt m) ∧ m.toNat = n := by
  unfold Json.asUInt at h
  split at h
  next m =>
    split at h
    · exact ⟨m, rfl, Option.some.inj h⟩
    · cases h
  · cases h

theorem stable_asUInt (bits : ℕ) : Stable fmt (Json.asUInt bits) id := by
  intro v w h x y hx hy
  obtain ⟨m, rfl, rfl⟩ := asUInt_eq_some bits v x hx
  obtain ⟨n, rfl, rfl⟩ := asUInt_eq_some bits w y hy
  have hdigits : Nat.toDigits 10 m.toNat = Nat.toDigits 10 n.toNat := by
    have hsame := h.same
    rw [Same, SameNumber, writeNumber, writeNumber] at hsame
    exact (Nat.toList_repr ..).symm.trans (hsame.trans (Nat.toList_repr ..))
  have hvalue := congrArg (Nat.ofDigitChars 10 · 0) hdigits
  simpa only [Nat.ofDigitChars_ten_toDigits, id_eq] using hvalue

theorem stable_map (read : Json → Option α) (f : α → β) (hread : Stable fmt read id) :
    Stable fmt (fun v => (read v).map f) id := by
  intro v w h x y hx hy
  obtain ⟨a, ha, rfl⟩ := Option.map_eq_some_iff.mp hx
  obtain ⟨b, hb, rfl⟩ := Option.map_eq_some_iff.mp hy
  have hab : a = b := hread v w h a b ha hb
  rw [hab]

section Fields

variable {members members' : List (String × Json)} {read : Json → Option α} {view : α → β}

theorem LookupSame.required (h : LookupSame fmt members members') (hread : Stable fmt read view)
    (key : String) (x y : α) (hx : requiredField members key read = some x)
    (hy : requiredField members' key read = some y) :
    view x = view y := by
  obtain ⟨v, hv, hvx⟩ := Option.bind_eq_some_iff.mp hx
  obtain ⟨w, hw, hwy⟩ := Option.bind_eq_some_iff.mp hy
  have hk := h key
  rw [hv, hw] at hk
  cases hk with
  | some hvw => exact hread v w hvw x y hvx hwy

theorem presentField_cases (key : String) (x : Option α) (hx : presentField members key read = some x) :
    (members.lookup key = none ∧ x = none) ∨
      ∃ v a, members.lookup key = some v ∧ read v = some a ∧ x = some a := by
  unfold presentField at hx
  split at hx
  next hv => exact .inl ⟨hv, (Option.some.inj hx).symm⟩
  next v hv =>
    obtain ⟨a, ha, rfl⟩ := Option.map_eq_some_iff.mp hx
    exact .inr ⟨v, a, hv, ha, rfl⟩

theorem LookupSame.present (h : LookupSame fmt members members') (hread : Stable fmt read view) (key : String)
    (x y : Option α) (hx : presentField members key read = some x)
    (hy : presentField members' key read = some y) : x.map view = y.map view := by
  have hk := h key
  obtain ⟨hv, rfl⟩ | ⟨v, a, hv, ha, rfl⟩ := presentField_cases key x hx
  · obtain ⟨-, rfl⟩ | ⟨w, b, hw, -, -⟩ := presentField_cases key y hy
    · rfl
    · rw [hv, hw] at hk
      cases hk
  · obtain ⟨hw, -⟩ | ⟨w, b, hw, hb, rfl⟩ := presentField_cases key y hy
    · rw [hv, hw] at hk
      cases hk
    · rw [hv, hw] at hk
      cases hk with
      | some hvw => exact congrArg some (hread v w hvw a b ha hb)

theorem optionField_cases (key : String) (x : Option α) (hx : optionField members key read = some x) :
    (((members.lookup key).all (· = .null)) = true ∧ x = none) ∨
      ∃ v a, members.lookup key = some v ∧ v ≠ .null ∧ read v = some a ∧ x = some a := by
  unfold optionField at hx
  split at hx
  next hv => exact .inl ⟨by rw [hv]; rfl, (Option.some.inj hx).symm⟩
  next hv => exact .inl ⟨by rw [hv]; rfl, (Option.some.inj hx).symm⟩
  next v hnull hv =>
    obtain ⟨a, ha, rfl⟩ := Option.map_eq_some_iff.mp hx
    exact .inr ⟨v, a, hv, hnull, ha, rfl⟩

theorem LookupSame.option (h : LookupSame fmt members members') (hread : Stable fmt read view) (key : String)
    (x y : Option α) (hx : optionField members key read = some x)
    (hy : optionField members' key read = some y) : x.map view = y.map view := by
  have hk := h key
  obtain ⟨hv, rfl⟩ | ⟨v, a, hv, hv', ha, rfl⟩ := optionField_cases key x hx
  · obtain ⟨-, rfl⟩ | ⟨w, b, hw, hw', -, -⟩ := optionField_cases key y hy
    · rfl
    · rw [hw] at hk
      cases hlookup : members.lookup key with
      | none =>
        rw [hlookup] at hk
        cases hk
      | some v =>
        rw [hlookup] at hk hv
        cases hk with
        | some hvw => exact absurd (hvw.eq_null_iff.mp (by simpa using hv)) hw'
  · obtain ⟨hw, -⟩ | ⟨w, b, hw, -, hb, rfl⟩ := optionField_cases key y hy
    · rw [hv] at hk
      cases hlookup : members'.lookup key with
      | none =>
        rw [hlookup] at hk
        cases hk
      | some w =>
        rw [hlookup] at hk hw
        cases hk with
        | some hvw => exact absurd (hvw.eq_null_iff.mpr (by simpa using hw)) hv'
    · rw [hv, hw] at hk
      cases hk with
      | some hvw => exact congrArg some (hread v w hvw a b ha hb)

theorem mapM_view_eq (hread : Stable fmt read view) (as bs : List Json)
    (h : List.Forall₂ (JcsSame fmt) as bs) (xs ys : List α) (hxs : as.mapM read = some xs)
    (hys : bs.mapM read = some ys) : xs.map view = ys.map view := by
  induction h generalizing xs ys with
  | nil =>
    obtain rfl := Option.some.inj hxs
    obtain rfl := Option.some.inj hys
    rfl
  | @cons v w as bs hvw _ ih =>
    rw [List.mapM_cons] at hxs hys
    obtain ⟨x, hx, hxs⟩ := Option.bind_eq_some_iff.mp hxs
    obtain ⟨xs', hxs', hxs⟩ := Option.bind_eq_some_iff.mp hxs
    obtain ⟨y, hy, hys⟩ := Option.bind_eq_some_iff.mp hys
    obtain ⟨ys', hys', hys⟩ := Option.bind_eq_some_iff.mp hys
    obtain rfl := Option.some.inj hxs
    obtain rfl := Option.some.inj hys
    rw [List.map_cons, List.map_cons, hread v w hvw x y hx hy, ih xs' ys' hxs' hys']

theorem stable_readItems (hread : Stable fmt read view) : Stable fmt (Json.readItems read)
    (List.map view) := by
  intro v w h xs ys hxs hys
  unfold Json.readItems at hxs hys
  split at hxs
  · split at hys
    next bs => exact mapM_view_eq hread _ bs (SameValid.items _ bs h) xs ys hxs hys
    · cases hys
  · cases hxs

theorem LookupSame.required_eq (h : LookupSame fmt members members') (hread : Stable fmt read id)
    (key : String) (x y : α) (hx : requiredField members key read = some x)
    (hy : requiredField members' key read = some y) :
    x = y := h.required hread key x y hx hy

theorem LookupSame.present_eq (h : LookupSame fmt members members') (hread : Stable fmt read id)
    (key : String) (x y : Option α) (hx : presentField members key read = some x)
    (hy : presentField members' key read = some y) : x = y := by
  simpa using h.present hread key x y hx hy

theorem LookupSame.option_eq (h : LookupSame fmt members members') (hread : Stable fmt read id) (key : String)
    (x y : Option α) (hx : optionField members key read = some x)
    (hy : optionField members' key read = some y) : x = y := by
  simpa using h.option hread key x y hx hy

theorem stable_items (hread : Stable fmt read id) : Stable fmt (Json.readItems read) id := by
  intro v w h xs ys hxs hys
  simpa using stable_readItems hread v w h xs ys hxs hys

end Fields

theorem lookupSame_closedMembersFrom (least : ℕ) (names : List String) (v w : Json) (h : JcsSame fmt v w)
    (members members' : List (String × Json)) (hv : v.closedMembersFrom least names = some members)
    (hw : w.closedMembersFrom least names = some members') : LookupSame fmt members members' := by
  have hsame := h.same
  unfold Json.closedMembersFrom at hv hw
  split at hv
  next as =>
    split at hw
    next bs =>
      split_ifs at hv hw
      obtain rfl := Option.some.inj hv
      obtain rfl := Option.some.inj hw
      exact SameValid.lookup _ _ h
    · simp [Same] at hsame
    · cases hw
  next as =>
    split at hw
    · simp [Same] at hsame
    next bs =>
      split_ifs at hv hw
      obtain rfl := Option.some.inj hv
      obtain rfl := Option.some.inj hw
      exact Json.lookup_zip_rel names as bs (SameValid.items as bs h)
    · cases hw
  · cases hv

theorem closedMembers_eq (names : List String) (v : Json) :
    v.closedMembers names = v.closedMembersFrom names.length names := by
  cases v with
  | arr items =>
    rw [Json.closedMembers, Json.closedMembersFrom]
    exact if_congr ⟨fun h => ⟨h.ge, h.le⟩, fun h => le_antisymm h.2 h.1⟩ rfl rfl
  | _ => rfl

end Acdp.Types
