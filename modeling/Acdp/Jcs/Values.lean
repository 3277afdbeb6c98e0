import Acdp.Foundation.Pieces
import Acdp.Jcs.Injective

namespace Acdp.Jcs

open Acdp.Types
open Acdp.Types.Json (Valid Same)
open Acdp.Foundation.Pieces

section Strings

variable (r : String → String → Prop) [DecidableRel r]

mutual

def strings : Json → List String
  | .str s => [s]
  | .arr items => (stringsItems items).flatten
  | .obj members => (sortBy r (stringsMembers members)).flatMap Prod.snd
  | _ => []

def stringsItems : List Json → List (List String)
  | [] => []
  | v :: rest => strings v :: stringsItems rest

def stringsMembers : List (String × Json) → List (String × List String)
  | [] => []
  | (k, v) :: rest => (k, strings v) :: stringsMembers rest

end

theorem stringsItems_eq_map (items : List Json) : stringsItems r items = items.map (strings r) := by
  induction items with
  | nil => rw [stringsItems, List.map_nil]
  | cons v rest ih => rw [stringsItems, ih, List.map_cons]

theorem stringsMembers_eq_map (members : List (String × Json)) :
    stringsMembers r members = members.map (fun m => (m.1, strings r m.2)) := by
  induction members with
  | nil => rw [stringsMembers, List.map_nil]
  | cons m rest ih =>
    obtain ⟨k, v⟩ := m
    rw [stringsMembers, ih, List.map_cons]

theorem strings_arr (items : List Json) : strings r (.arr items) = items.flatMap (strings r) := by
  rw [strings, stringsItems_eq_map]
  rfl

theorem strings_obj (members : List (String × Json)) :
    strings r (.obj members) = (sortBy r members).flatMap (fun m => strings r m.2) := by
  rw [strings, stringsMembers_eq_map, map_sortBy, List.flatMap_map]

variable [Std.Total r] [IsTrans String r] [Std.Antisymm r]

theorem keys_sortBy_eq (as bs : List (String × Json)) (has : (as.map Prod.fst).Nodup)
    (hbs : (bs.map Prod.fst).Nodup) (hkeys : ∀ k, as.lookup k = none ↔ bs.lookup k = none) :
    (sortBy r as).map Prod.fst = (sortBy r bs).map Prod.fst := by
  have hperm : (as.map Prod.fst).Perm (bs.map Prod.fst) := by
    apply (List.perm_ext_iff_of_nodup has hbs).mpr
    intro k
    rw [← not_iff_not, ← Json.lookup_eq_none_iff_not_mem, ← Json.lookup_eq_none_iff_not_mem]
    exact hkeys k
  have hsorted : ((sortBy r as).map Prod.fst).Perm ((sortBy r bs).map Prod.fst) :=
    ((sortBy_perm r as).map Prod.fst).trans (hperm.trans ((sortBy_perm r bs).map Prod.fst).symm)
  have hascending (ms : List (String × Json)) : ((sortBy r ms).map Prod.fst).Pairwise r := by
    rw [List.pairwise_map]
    exact sortBy_pairwise r ms
  exact hsorted.eq_of_pairwise (fun a b _ _ => Std.Antisymm.antisymm a b) (hascending as) (hascending bs)

theorem strings_eq_of_same (p : Number → Prop) (q : Number → Number → Prop) (a b : Json) (ha : Valid p a)
    (hb : Valid p b) (h : Same q a b) : strings r a = strings r b := by
  induction a using Json.induction generalizing b with
  | null => cases b <;> simp_all [Same]
  | bool x => cases b <;> simp_all [Same]
  | num n => cases b <;> simp_all [Same, strings]
  | str x => cases b <;> simp_all [Same]
  | arr items ih =>
    cases b with
    | arr items' =>
      rw [Valid, Json.validItems_iff] at ha hb
      rw [Same, Json.sameItems_iff] at h
      have heq : items.map (strings r) = items'.map (strings r) := by
        rw [← List.forall₂_eq_eq_eq, List.forall₂_map_left_iff, List.forall₂_map_right_iff]
        have hmem := (List.forall₂_and_left items items').mpr ⟨fun v hv => hv, h⟩
        have hmem' := (List.forall₂_and_left items' items).mpr ⟨fun v hv => hv, hmem.flip⟩
        exact hmem'.flip.imp (fun v w hvw => ih v hvw.2.1 w (ha v hvw.2.1) (hb w hvw.1) hvw.2.2)
      rw [strings_arr, strings_arr, List.flatMap_def, List.flatMap_def, heq]
    | _ => simp [Same] at h
  | obj members ih =>
    cases b with
    | obj members' =>
      rw [Valid, Json.validMembers_iff] at ha hb
      rw [Json.same_obj_iff_lookup _ _ _ ha.1 hb.1] at h
      have hkeys := keys_sortBy_eq r members members' ha.1 hb.1 (fun k => by
        have hk := h k
        cases hx : members.lookup k <;> cases hy : members'.lookup k <;> rw [hx, hy] at hk <;> simp_all)
      rw [strings_obj, strings_obj, List.flatMap_def, List.flatMap_def,
        map_eq_of_keys_eq _ (fun m => strings r m.2) _ _ hkeys]
      intro m hm n hn hmn
      rw [mem_sortBy] at hm hn
      have hk := h m.1
      rw [Json.lookup_of_mem m.1 m.2 members ha.1 hm, hmn, Json.lookup_of_mem n.1 n.2 members' hb.1 hn] at hk
      cases hk with
      | some hsame => exact ih m hm n.2 (ha.2 m hm) (hb.2 n hn) hsame
    | _ => simp [Same] at h

end Strings

section Tokens

inductive Piece where
  | mark (text : List Char)
  | value (s : String)

def Piece.text : Piece → List Char
  | .mark text => text
  | .value s => writeString s

def Piece.value? : Piece → Option String
  | .mark _ => none
  | .value s => some s

variable (fmt : FloatFormat)

mutual

def pieces : Json → List Piece
  | .null => [.mark "null".toList]
  | .bool true => [.mark "true".toList]
  | .bool false => [.mark "false".toList]
  | .num n => [.mark (writeNumber fmt n)]
  | .str s => [.value s]
  | .arr items => .mark ['['] :: ([.mark [',']].intercalate (piecesItems items) ++ [.mark [']']])
  | .obj members => .mark ['\x7b'] :: ([.mark [',']].intercalate ((sortKeys (piecesMembers members)).map
      (fun m => .mark (writeString m.1 ++ [':']) :: m.2)) ++ [.mark ['\x7d']])

def piecesItems : List Json → List (List Piece)
  | [] => []
  | v :: rest => pieces v :: piecesItems rest

def piecesMembers : List (String × Json) → List (String × List Piece)
  | [] => []
  | (k, v) :: rest => (k, pieces v) :: piecesMembers rest

end

theorem piecesItems_eq_map (items : List Json) : piecesItems fmt items = items.map (pieces fmt) := by
  induction items with
  | nil => rw [piecesItems, List.map_nil]
  | cons v rest ih => rw [piecesItems, ih, List.map_cons]

theorem piecesMembers_eq_map (members : List (String × Json)) :
    piecesMembers fmt members = members.map (fun m => (m.1, pieces fmt m.2)) := by
  induction members with
  | nil => rw [piecesMembers, List.map_nil]
  | cons m rest ih =>
    obtain ⟨k, v⟩ := m
    rw [piecesMembers, ih, List.map_cons]

theorem sortKeys_eq_sortBy {α : Type} (members : List (String × α)) :
    sortKeys members = sortBy (· ≤ ·) members := rfl

theorem flatMap_intercalate {α β : Type} (f : α → List β) (separator : List α) (ls : List (List α)) :
    (separator.intercalate ls).flatMap f = (separator.flatMap f).intercalate (ls.map (List.flatMap f)) := by
  rw [List.intercalate, List.intercalate, List.flatten_eq_flatMap, List.flatMap_assoc]
  induction ls with
  | nil => rfl
  | cons l ls ih => cases ls <;> simp_all [List.intersperse]

theorem filterMap_intercalate {α β : Type} (f : α → Option β) (separator : List α)
    (hseparator : separator.filterMap f = []) (ls : List (List α)) :
    (separator.intercalate ls).filterMap f = ls.flatMap (List.filterMap f) := by
  rw [List.intercalate]
  induction ls with
  | nil => rfl
  | cons l ls ih => cases ls <;> simp_all [List.intersperse]

theorem filterMap_delimited (before after : List Char) (ls : List (List Piece)) :
    (Piece.mark before :: ([Piece.mark [',']].intercalate ls ++ [Piece.mark after])).filterMap Piece.value? =
      ls.flatMap (List.filterMap Piece.value?) := by
  rw [List.filterMap_cons_none rfl, List.filterMap_append, filterMap_intercalate _ _ rfl,
    List.filterMap_cons_none rfl, List.filterMap_nil, List.append_nil]

theorem render_eq_pieces (v : Json) : render fmt v = (pieces fmt v).flatMap Piece.text := by
  induction v using Json.induction with
  | null => rfl
  | bool b => cases b <;> rfl
  | num n => simp [render, pieces, Piece.text]
  | str s => simp [render, pieces, Piece.text]
  | arr items ih =>
    have hitems : items.map (render fmt) = (items.map (pieces fmt)).map (List.flatMap Piece.text) := by
      rw [List.map_map]
      exact List.map_congr_left ih
    rw [render, pieces, renderItems_eq_map, piecesItems_eq_map, writeArray, List.flatMap_cons,
      List.flatMap_append, flatMap_intercalate, hitems]
    rfl
  | obj members ih =>
    have hmembers : (sortKeys members).map (fun m => writeMember (m.1, render fmt m.2)) =
        ((sortKeys members).map (fun m => Piece.mark (writeString m.1 ++ [':']) :: pieces fmt m.2)).map
          (List.flatMap Piece.text) := by
      rw [List.map_map]
      refine List.map_congr_left (fun m hm => ?_)
      have hvalue := ih m ((mem_sortBy _ members m).mp hm)
      simp [writeMember, Piece.text, hvalue]
    rw [render, pieces, writeObject_renderMembers, piecesMembers_eq_map, sortKeys_eq_sortBy (members.map _),
      map_sortBy, List.map_map, List.flatMap_cons, List.flatMap_append, flatMap_intercalate, hmembers]
    rfl

theorem values_pieces (v : Json) : (pieces fmt v).filterMap Piece.value? = strings (· ≤ ·) v := by
  induction v using Json.induction with
  | null => rfl
  | bool b => cases b <;> rfl
  | num n => simp [strings, pieces, Piece.value?]
  | str s => simp [strings, pieces, Piece.value?]
  | arr items ih =>
    rw [strings_arr, pieces, piecesItems_eq_map, filterMap_delimited, List.flatMap_map]
    exact List.flatMap_congr ih
  | obj members ih =>
    rw [strings_obj, pieces, piecesMembers_eq_map, sortKeys_eq_sortBy, map_sortBy, filterMap_delimited,
      List.flatMap_map, List.flatMap_map]
    refine List.flatMap_congr (fun m hm => ?_)
    rw [List.filterMap_cons_none rfl]
    exact ih m ((mem_sortBy _ members m).mp hm)

end Tokens

end Acdp.Jcs
