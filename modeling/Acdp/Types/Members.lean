import Acdp.Crypto.Verify
import Acdp.Types.JsonSame
import Acdp.Types.Serialize

namespace Acdp.Types

open Acdp.Crypto
open Acdp.Types.Json (Valid Same flattened insertMember)

section Removal

variable {members : List (String × Json)}

theorem lookup_removeKeys (keys : List String) (key : String) (hkey : key ∉ keys) :
    (removeKeys keys members).lookup key = members.lookup key := by
  induction members with
  | nil => rfl
  | cons m rest ih =>
    rw [removeKeys, List.filter_cons]
    split_ifs with hm
    · rw [List.lookup_cons, List.lookup_cons, ← removeKeys, ih]
    · have hne : key ≠ m.1 := by
        rintro rfl
        exact hm (by simpa using hkey)
      rw [← removeKeys, ih, List.lookup_cons, beq_eq_false_iff_ne.mpr hne]

theorem lookup_removeKeys_of_mem (keys : List String) (key : String) (hkey : key ∈ keys) :
    (removeKeys keys members).lookup key = none := by
  rw [Json.lookup_eq_none_iff_not_mem]
  intro hin
  obtain ⟨m, hm, rfl⟩ := List.mem_map.mp hin
  have hout := (List.mem_filter.mp hm).2
  simp only [decide_eq_true_eq] at hout
  exact hout hkey

theorem valid_removeKeys (p : Number → Prop) (keys : List String) (h : Valid p (.obj members)) :
    Valid p (.obj (removeKeys keys members)) := by
  rw [Valid, Json.validMembers_iff] at h ⊢
  refine ⟨h.1.sublist (List.filter_sublist.map _), ?_⟩
  intro m hm
  exact h.2 m (List.mem_of_mem_filter hm)

theorem same_removeKeys (p : Number → Prop) (r : Number → Number → Prop) (keys : List String)
    (as bs : List (String × Json)) (ha : Valid p (.obj as)) (hb : Valid p (.obj bs))
    (h : Same r (.obj as) (.obj bs)) : Same r (.obj (removeKeys keys as)) (.obj (removeKeys keys bs)) := by
  have ha' := valid_removeKeys p keys ha
  have hb' := valid_removeKeys p keys hb
  rw [Valid] at ha hb ha' hb'
  rw [Json.same_obj_iff_lookup r _ _ ha.1 hb.1] at h
  rw [Json.same_obj_iff_lookup r _ _ ha'.1 hb'.1]
  intro k
  by_cases hk : k ∈ keys
  · rw [lookup_removeKeys_of_mem keys k hk, lookup_removeKeys_of_mem keys k hk]
    exact .none
  · rw [lookup_removeKeys keys k hk, lookup_removeKeys keys k hk]
    exact h k

theorem removeKeys_append (keys : List String) (as bs : List (String × Json)) :
    removeKeys keys (as ++ bs) = removeKeys keys as ++ removeKeys keys bs := List.filter_append ..

theorem removeKeys_optional {α : Type} (keys : List String) (key : String) (write : α → Json)
    (value : Option α) : removeKeys keys (Json.optional key write value) =
      if key ∈ keys then [] else Json.optional key write value := by
  cases value with
  | none => simp [Json.optional, removeKeys]
  | some v =>
    split_ifs with hk
    · simp [Json.optional, removeKeys, hk]
    · simp [Json.optional, removeKeys, hk]

end Removal

section Flattening

theorem keys_optional {α : Type} (key : String) (write : α → Json) (value : Option α) (k : String) :
    k ∈ (Json.optional key write value).map Prod.fst ↔ value.isSome ∧ k = key := by
  cases value <;> simp [Json.optional, eq_comm]

theorem lookup_append (as bs : List (String × Json)) (k : String) :
    (as ++ bs).lookup k = (as.lookup k).or (bs.lookup k) := by
  induction as with
  | nil => rfl
  | cons m as ih =>
    rw [List.cons_append, List.lookup_cons, List.lookup_cons, ih]
    split <;> rfl

theorem lookup_optional {α : Type} (key : String) (write : α → Json) (value : Option α) (k : String) :
    (Json.optional key write value).lookup k = if k = key then value.map write else none := by
  cases value with
  | none => simp [Json.optional]
  | some v =>
    by_cases hk : k = key
    · simp [Json.optional, hk]
    · simp [Json.optional, hk, List.lookup_cons, beq_eq_false_iff_ne.mpr hk]

theorem lookup_insertMember (members : List (String × Json)) (key : String) (value : Json) (k : String) :
    (insertMember members key value).lookup k = if k = key then some value else members.lookup k := by
  unfold insertMember
  by_cases hin : key ∈ members.map Prod.fst
  · rw [if_pos hin]
    induction members with
    | nil => simp at hin
    | cons m rest ih =>
      rw [List.map_cons, List.lookup_cons, List.lookup_cons]
      by_cases hm : m.1 = key
      · rw [if_pos hm]
        by_cases hk : k = key
        · simp [hk]
        · have hkm : k ≠ m.1 := fun he => hk (he.trans hm)
          simp only [if_neg hk, beq_eq_false_iff_ne.mpr hk, beq_eq_false_iff_ne.mpr hkm]
          by_cases hrest : key ∈ rest.map Prod.fst
          · rw [ih hrest, if_neg hk]
          · have hsame : rest.map (fun m => if m.1 = key then (key, value) else m) = rest := by
              rw [List.map_congr_left (g := id), List.map_id]
              intro n hn
              rw [if_neg]
              · rfl
              · rintro rfl
                exact hrest (List.mem_map_of_mem hn)
            rw [hsame]
      · rw [if_neg hm]
        have hrest : key ∈ rest.map Prod.fst := by
          rcases List.mem_cons.mp hin with he | hrest
          · exact absurd he.symm hm
          · exact hrest
        by_cases hkm : k = m.1
        · have hk : k ≠ key := fun he => hm (hkm.symm.trans he)
          simp [hkm, if_neg (hkm ▸ hk)]
        · simp only [beq_eq_false_iff_ne.mpr hkm]
          exact ih hrest
  · rw [if_neg hin, lookup_append]
    by_cases hk : k = key
    · rw [if_pos hk, hk, (Json.lookup_eq_none_iff_not_mem key members).mpr hin]
      simp
    · rw [if_neg hk]
      simp [List.lookup_cons, beq_eq_false_iff_ne.mpr hk]

theorem lookup_flattened (fields extensions : List (String × Json)) (k : String)
    (hk : k ∉ extensions.map Prod.fst) : (flattened fields extensions).lookup k = fields.lookup k := by
  unfold flattened
  induction extensions generalizing fields with
  | nil => rfl
  | cons m rest ih =>
    rw [List.map_cons, List.mem_cons, not_or] at hk
    rw [List.foldl_cons, ih (insertMember fields m.1 m.2) hk.2, lookup_insertMember, if_neg hk.1]

end Flattening

section Insertion

variable (members : List (String × Json)) (key : String) (value : Json)

theorem keys_insertMember : (insertMember members key value).map Prod.fst =
    if key ∈ members.map Prod.fst then members.map Prod.fst else members.map Prod.fst ++ [key] := by
  unfold insertMember
  split
  · rw [List.map_map]
    apply List.map_congr_left
    intro m _
    by_cases hm : m.1 = key
    · simp [hm]
    · simp [hm]
  · rw [List.map_append]
    rfl

theorem nodup_insertMember (h : (members.map Prod.fst).Nodup) :
    ((insertMember members key value).map Prod.fst).Nodup := by
  rw [keys_insertMember]
  split
  · exact h
  next hkey => exact h.append (List.nodup_singleton key) (List.disjoint_singleton.mpr hkey)

theorem mem_insertMember (m : String × Json) (h : m ∈ insertMember members key value) :
    m = (key, value) ∨ m ∈ members := by
  unfold insertMember at h
  split at h
  · obtain ⟨n, hn, rfl⟩ := List.mem_map.mp h
    by_cases hkey : n.1 = key
    · exact .inl (if_pos hkey)
    · rw [if_neg hkey]
      exact .inr hn
  · rcases List.mem_append.mp h with h | h
    · exact .inr h
    · exact .inl (List.mem_singleton.mp h)

theorem insertMember_of_not_mem (h : key ∉ members.map Prod.fst) :
    insertMember members key value = members ++ [(key, value)] := if_neg h

theorem removeKeys_insertMember (keys : List String) (hkey : key ∈ keys) :
    removeKeys keys (insertMember members key value) = removeKeys keys members := by
  have hmap : removeKeys keys (members.map (fun m => if m.1 = key then (key, value) else m)) =
      removeKeys keys members := by
    induction members with
    | nil => rfl
    | cons m rest ih =>
      rw [List.map_cons, removeKeys, removeKeys, List.filter_cons, List.filter_cons, ← removeKeys, ← removeKeys,
        ih]
      by_cases hm : m.1 = key
      · simp [hm, hkey]
      · simp [hm]
  unfold insertMember
  split
  · exact hmap
  · rw [removeKeys_append]
    simp [removeKeys, hkey]

end Insertion

end Acdp.Types
