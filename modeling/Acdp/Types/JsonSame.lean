import Acdp.Types.Json
import Mathlib.Data.List.Forall2
import Mathlib.Data.List.Perm.Basic
import Mathlib.Data.List.Nodup

namespace Acdp.Types.Json

theorem induction {P : Json → Prop} (null : P .null) (bool : ∀ b, P (.bool b)) (num : ∀ n, P (.num n))
    (str : ∀ s, P (.str s)) (arr : ∀ items, (∀ v ∈ items, P v) → P (.arr items))
    (obj : ∀ members, (∀ m ∈ members, P m.2) → P (.obj members)) (v : Json) : P v := by
  refine @Json.rec P (fun items => ∀ v ∈ items, P v) (fun members => ∀ m ∈ members, P m.2) (fun m => P m.2)
    null bool num str arr obj ?_ ?_ ?_ ?_ ?_ v
  · simp
  · intro head tail hhead htail
    rw [List.forall_mem_cons]
    exact ⟨hhead, htail⟩
  · simp
  · intro head tail hhead htail
    rw [List.forall_mem_cons]
    exact ⟨hhead, htail⟩
  · intro k v hv
    exact hv

mutual

def Valid (p : Number → Prop) : Json → Prop
  | .null | .bool _ | .str _ => True
  | .num n => p n
  | .arr items => ValidItems p items
  | .obj members => (members.map Prod.fst).Nodup ∧ ValidMembers p members

def ValidItems (p : Number → Prop) : List Json → Prop
  | [] => True
  | v :: rest => Valid p v ∧ ValidItems p rest

def ValidMembers (p : Number → Prop) : List (String × Json) → Prop
  | [] => True
  | (_, v) :: rest => Valid p v ∧ ValidMembers p rest

end

mutual

def depth : Json → ℕ
  | .null | .bool _ | .num _ | .str _ => 0
  | .arr items => depthItems items
  | .obj members => depthMembers members

def depthItems : List Json → ℕ
  | [] => 0
  | v :: rest => max (depth v + 1) (depthItems rest)

def depthMembers : List (String × Json) → ℕ
  | [] => 0
  | (_, v) :: rest => max (depth v + 1) (depthMembers rest)

end

mutual

/-- Equality of values with numbers compared by `r` and object members in any order. -/
def Same (r : Number → Number → Prop) : Json → Json → Prop
  | .null, .null => True
  | .bool a, .bool b => a = b
  | .num a, .num b => r a b
  | .str a, .str b => a = b
  | .arr as, .arr bs => SameItems r as bs
  | .obj as, .obj bs => as.length = bs.length ∧ SameMembers r as bs
  | _, _ => False

def SameItems (r : Number → Number → Prop) : List Json → List Json → Prop
  | [], [] => True
  | a :: as, b :: bs => Same r a b ∧ SameItems r as bs
  | _, _ => False

def SameMembers (r : Number → Number → Prop) : List (String × Json) → List (String × Json) → Prop
  | [], _ => True
  | (k, a) :: as, bs => (∃ b, bs.lookup k = some b ∧ Same r a b) ∧ SameMembers r as bs

end

variable (p : Number → Prop) (r : Number → Number → Prop)

example : depth (.arr [.obj []]) = 1 ∧ Valid p (.arr [.obj [("k", .null)]]) ∧
    Same r (.arr [.obj []]) (.arr [.obj []]) := by
  simp [depth, depthItems, depthMembers, Valid, ValidItems, ValidMembers, Same, SameItems, SameMembers]

theorem validItems_iff (items : List Json) : ValidItems p items ↔ ∀ v ∈ items, Valid p v := by
  induction items with
  | nil => simp [ValidItems]
  | cons v rest ih => simp [ValidItems, ih]

theorem validMembers_iff (members : List (String × Json)) :
    ValidMembers p members ↔ ∀ m ∈ members, Valid p m.2 := by
  induction members with
  | nil => simp [ValidMembers]
  | cons m rest ih =>
    obtain ⟨k, v⟩ := m
    simp [ValidMembers, ih]

theorem depthItems_le_iff (items : List Json) (n : ℕ) :
    depthItems items ≤ n ↔ ∀ v ∈ items, depth v + 1 ≤ n := by
  induction items with
  | nil => simp [depthItems]
  | cons v rest ih => rw [depthItems, Nat.max_le, ih, List.forall_mem_cons]

theorem depthMembers_le_iff (members : List (String × Json)) (n : ℕ) :
    depthMembers members ≤ n ↔ ∀ m ∈ members, depth m.2 + 1 ≤ n := by
  induction members with
  | nil => simp [depthMembers]
  | cons m rest ih =>
    obtain ⟨k, v⟩ := m
    rw [depthMembers, Nat.max_le, ih, List.forall_mem_cons]

theorem sameItems_iff (as bs : List Json) : SameItems r as bs ↔ List.Forall₂ (Same r) as bs := by
  induction as generalizing bs with
  | nil => cases bs <;> simp [SameItems]
  | cons a as ih => cases bs <;> simp [SameItems, ih]

theorem sameMembers_iff (as bs : List (String × Json)) :
    SameMembers r as bs ↔ ∀ m ∈ as, ∃ b, bs.lookup m.1 = some b ∧ Same r m.2 b := by
  induction as with
  | nil => simp [SameMembers]
  | cons m as ih =>
    obtain ⟨k, a⟩ := m
    simp [SameMembers, ih]

theorem mem_of_lookup {α : Type} (k : String) (v : α) (members : List (String × α))
    (h : members.lookup k = some v) : (k, v) ∈ members := by
  induction members with
  | nil => cases h
  | cons m rest ih =>
    rw [List.lookup_cons] at h
    split at h
    · next heq =>
      obtain rfl := Option.some.inj h
      rw [eq_of_beq heq]
      exact List.mem_cons_self
    · exact .tail _ (ih h)

theorem lookup_of_mem {α : Type} (k : String) (v : α) (members : List (String × α))
    (hnodup : (members.map Prod.fst).Nodup) (h : (k, v) ∈ members) : members.lookup k = some v := by
  induction members with
  | nil => cases h
  | cons m rest ih =>
    rw [List.map_cons, List.nodup_cons] at hnodup
    rw [List.lookup_cons]
    rcases List.mem_cons.mp h with rfl | hrest
    · simp
    · have hne : k ≠ m.1 := by
        rintro rfl
        exact hnodup.1 (List.mem_map.mpr ⟨_, hrest, rfl⟩)
      simp only [beq_eq_false_iff_ne.mpr hne]
      exact ih hnodup.2 hrest

theorem lookup_eq_none_iff_not_mem {α : Type} (k : String) (members : List (String × α)) :
    members.lookup k = none ↔ k ∉ members.map Prod.fst := by
  rw [List.lookup_eq_none_iff]
  simp only [List.mem_map, not_exists, not_and, bne_iff_ne, ne_eq]
  constructor
  · intro h m hm hk
    exact h m hm hk.symm
  · intro h m hm hk
    exact h m hm hk.symm

theorem same_obj_iff_lookup (as bs : List (String × Json)) (has : (as.map Prod.fst).Nodup)
    (hbs : (bs.map Prod.fst).Nodup) :
    Same r (.obj as) (.obj bs) ↔ ∀ k, Option.Rel (Same r) (as.lookup k) (bs.lookup k) := by
  rw [Same, sameMembers_iff]
  constructor
  · rintro ⟨hlen, hmem⟩ k
    cases ha : as.lookup k with
    | some a =>
      obtain ⟨b, hb, hsame⟩ := hmem (k, a) (mem_of_lookup k a as ha)
      rw [hb]
      exact .some hsame
    | none =>
      have hsub : as.map Prod.fst ⊆ bs.map Prod.fst := by
        intro key hkey
        obtain ⟨m, hm, rfl⟩ := List.mem_map.mp hkey
        obtain ⟨b, hb, -⟩ := hmem m hm
        exact List.mem_map.mpr ⟨_, mem_of_lookup _ b bs hb, rfl⟩
      have hperm : (as.map Prod.fst).Perm (bs.map Prod.fst) :=
        (List.subperm_of_subset has hsub).perm_of_length_le (by simp [hlen])
      have hb : bs.lookup k = none := by
        rw [lookup_eq_none_iff_not_mem] at ha ⊢
        exact fun h => ha (hperm.mem_iff.mpr h)
      rw [hb]
      exact .none
  · intro h
    constructor
    · have hperm : (as.map Prod.fst).Perm (bs.map Prod.fst) := by
        apply (List.perm_ext_iff_of_nodup has hbs).mpr
        intro k
        have hk := h k
        rw [← not_iff_not, ← lookup_eq_none_iff_not_mem, ← lookup_eq_none_iff_not_mem]
        cases ha : as.lookup k <;> cases hb : bs.lookup k <;> rw [ha, hb] at hk <;> simp_all
      simpa using hperm.length_eq
    · intro m hm
      have hk := h m.1
      rw [lookup_of_mem m.1 m.2 as has hm] at hk
      cases hb : bs.lookup m.1 with
      | none =>
        rw [hb] at hk
        cases hk
      | some b =>
        rw [hb] at hk
        cases hk with
        | some hsame => exact ⟨b, rfl, hsame⟩

theorem Same.mono {r q : Number → Number → Prop} (h : ∀ m n, r m n → q m n) (a b : Json)
    (hab : Same r a b) : Same q a b := by
  induction a using induction generalizing b with
  | null => cases b <;> simp_all [Same]
  | bool x => cases b <;> simp_all [Same]
  | num n => cases b <;> simp_all [Same]
  | str s => cases b <;> simp_all [Same]
  | arr items ih =>
    cases b with
    | arr items' =>
      rw [Same, sameItems_iff] at hab ⊢
      have hmem := (List.forall₂_and_left items items').mpr ⟨fun v hv => hv, hab⟩
      exact hmem.imp (fun v w h => ih v h.1 w h.2)
    | _ => simp [Same] at hab
  | obj members ih =>
    cases b with
    | obj members' =>
      rw [Same, sameMembers_iff] at hab ⊢
      refine ⟨hab.1, fun m hm => ?_⟩
      obtain ⟨b, hb, hsame⟩ := hab.2 m hm
      exact ⟨b, hb, ih m hm b hsame⟩
    | _ => simp [Same] at hab

theorem same_of_members (fields members : List (String × Json)) (hfields : (fields.map Prod.fst).Nodup)
    (hmembers : (members.map Prod.fst).Nodup) (hkeys : members.map Prod.fst ⊆ fields.map Prod.fst)
    (h : SameMembers r fields members) : Same r (.obj fields) (.obj members) := by
  refine ⟨?_, h⟩
  rw [sameMembers_iff] at h
  have hsub : fields.map Prod.fst ⊆ members.map Prod.fst := by
    intro key hkey
    obtain ⟨m, hm, rfl⟩ := List.mem_map.mp hkey
    obtain ⟨b, hb, -⟩ := h m hm
    exact List.mem_map.mpr ⟨_, mem_of_lookup _ b members hb, rfl⟩
  have hle := (List.subperm_of_subset hfields hsub).length_le
  have hge := (List.subperm_of_subset hmembers hkeys).length_le
  simp only [List.length_map] at hle hge
  exact Nat.le_antisymm hle hge

theorem same_refl (hr : ∀ n, r n n) (v : Json) (hv : Valid p v) : Same r v v := by
  induction v using induction with
  | null => rw [Same]; trivial
  | bool b => rw [Same]
  | num n => rw [Same]; exact hr n
  | str s => rw [Same]
  | arr items ih =>
    rw [Valid, validItems_iff] at hv
    rw [Same, sameItems_iff, List.forall₂_same]
    exact fun v hmem => ih v hmem (hv v hmem)
  | obj members ih =>
    rw [Valid, validMembers_iff] at hv
    rw [same_obj_iff_lookup r _ _ hv.1 hv.1]
    intro k
    cases hk : members.lookup k with
    | none => exact .none
    | some v =>
      have hmem := mem_of_lookup k v members hk
      exact .some (ih (k, v) hmem (hv.2 _ hmem))

theorem same_symm (hr : ∀ m n, r m n → r n m) (a b : Json) (ha : Valid p a) (hb : Valid p b)
    (h : Same r a b) : Same r b a := by
  induction a using induction generalizing b with
  | null => cases b <;> simp_all [Same]
  | bool x => cases b <;> simp_all [Same]
  | num n =>
    cases b with
    | num m =>
      rw [Same] at h ⊢
      exact hr n m h
    | _ => simp [Same] at h
  | str s => cases b <;> simp_all [Same]
  | arr items ih =>
    cases b with
    | arr items' =>
      rw [Same, sameItems_iff] at h ⊢
      rw [Valid, validItems_iff] at ha hb
      have hmem := (List.forall₂_and_left items items').mpr ⟨fun v hv => hv, h⟩
      have hmem' := (List.forall₂_and_left items' items).mpr ⟨fun v hv => hv, hmem.flip⟩
      exact hmem'.imp (fun w v hvw => ih v hvw.2.1 w (ha v hvw.2.1) (hb w hvw.1) hvw.2.2)
    | _ => simp [Same] at h
  | obj members ih =>
    cases b with
    | obj members' =>
      rw [Valid, validMembers_iff] at ha hb
      rw [same_obj_iff_lookup r _ _ ha.1 hb.1] at h
      rw [same_obj_iff_lookup r _ _ hb.1 ha.1]
      intro k
      have hk := h k
      cases hv : members.lookup k with
      | none =>
        rw [hv] at hk
        cases hw : members'.lookup k with
        | none => exact .none
        | some w =>
          rw [hw] at hk
          cases hk
      | some v =>
        rw [hv] at hk
        cases hw : members'.lookup k with
        | none =>
          rw [hw] at hk
          cases hk
        | some w =>
          rw [hw] at hk
          cases hk with
          | some hsame =>
            have hmem := mem_of_lookup k v members hv
            exact .some (ih (k, v) hmem w (ha.2 _ hmem) (hb.2 _ (mem_of_lookup k w members' hw)) hsame)
    | _ => simp [Same] at h

theorem depth_le_of_same (a b : Json) (ha : Valid p a) (hb : Valid p b) (h : Same r a b) :
    depth b ≤ depth a := by
  induction a using induction generalizing b with
  | null => cases b <;> simp_all [Same, depth]
  | bool x => cases b <;> simp_all [Same, depth]
  | num n => cases b <;> simp_all [Same, depth]
  | str s => cases b <;> simp_all [Same, depth]
  | arr items ih =>
    cases b with
    | arr items' =>
      rw [Same, sameItems_iff] at h
      rw [Valid, validItems_iff] at ha hb
      rw [depth, depth, depthItems_le_iff]
      intro w hw
      obtain ⟨i, hi, rfl⟩ := List.getElem_of_mem hw
      have hi' : i < items.length := by rwa [h.length_eq]
      have hv : items[i] ∈ items := List.getElem_mem hi'
      have hvw : Same r items[i] items'[i] := (List.forall₂_iff_get.mp h).2 i hi' hi
      have hle := ih _ hv _ (ha _ hv) (hb _ hw) hvw
      have hup := (depthItems_le_iff items (depthItems items)).mp (Nat.le_refl _) _ hv
      omega
    | _ => simp [Same] at h
  | obj members ih =>
    cases b with
    | obj members' =>
      rw [Valid, validMembers_iff] at ha hb
      rw [same_obj_iff_lookup r members members' ha.1 hb.1] at h
      rw [depth, depth, depthMembers_le_iff]
      intro m hm
      have hk := h m.1
      rw [lookup_of_mem m.1 m.2 members' hb.1 hm] at hk
      cases hv : members.lookup m.1 with
      | none =>
        rw [hv] at hk
        cases hk
      | some v =>
        rw [hv] at hk
        cases hk with
        | some hsame =>
          have hmem := mem_of_lookup m.1 v members hv
          have hle := ih _ hmem m.2 (ha.2 _ hmem) (hb.2 m hm) hsame
          have hup := (depthMembers_le_iff members (depthMembers members)).mp (Nat.le_refl _) _ hmem
          omega
    | _ => simp [Same] at h

theorem valueEq_iff_same (a b : Json) : valueEq a b = true ↔ Same (fun m n => numberEq m n = true) a b := by
  induction a using induction generalizing b with
  | null => cases b <;> simp [valueEq, Same]
  | bool x => cases b <;> simp [valueEq, Same]
  | num n => cases b <;> simp [valueEq, Same]
  | str s => cases b <;> simp [valueEq, Same]
  | arr items ih =>
    cases b with
    | arr items' =>
      rw [valueEq, Same]
      induction items generalizing items' with
      | nil => cases items' <;> simp [itemsEq, SameItems]
      | cons v rest ihrest =>
        cases items' with
        | nil => simp [itemsEq, SameItems]
        | cons w rest' =>
          rw [itemsEq, SameItems, Bool.and_eq_true, ih v List.mem_cons_self,
            ihrest (fun u hu => ih u (List.mem_cons_of_mem _ hu))]
    | _ => simp [valueEq, Same]
  | obj members ih =>
    cases b with
    | obj members' =>
      rw [valueEq, Same, Bool.and_eq_true, beq_iff_eq]
      refine and_congr_right ?_
      rintro -
      induction members with
      | nil => simp [membersEq, SameMembers]
      | cons m rest ihrest =>
        obtain ⟨k, v⟩ := m
        rw [membersEq, SameMembers, Bool.and_eq_true, ihrest (fun u hu => ih u (List.mem_cons_of_mem _ hu))]
        refine and_congr_left fun _ => ?_
        cases members'.lookup k with
        | none => simp
        | some w => simp [ih (k, v) List.mem_cons_self]
    | _ => simp [valueEq, Same]

end Acdp.Types.Json
