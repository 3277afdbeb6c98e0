import Acdp.Foundation.Firsts
import Acdp.Jcs.Rfc8785
import Acdp.Jcs.Values
import Acdp.Mcp.Record

namespace Acdp.Mcp

open Acdp.Types
open Acdp.Types.Json (Valid Same)
open Acdp.Crypto (utf8)
open Acdp.Foundation
open Acdp.Foundation.Firsts
open Acdp.Foundation.Pieces
open Acdp.Jcs (strings strings_arr strings_obj pieces Piece)

def inUtf16 (a b : String) : Prop := encodeUtf16 a ≤ encodeUtf16 b

instance : DecidableRel inUtf16 := fun a b => inferInstanceAs (Decidable (encodeUtf16 a ≤ encodeUtf16 b))

instance : Std.Total inUtf16 := ⟨fun a b => le_total (encodeUtf16 a) (encodeUtf16 b)⟩

instance : IsTrans String inUtf16 := ⟨fun _ _ _ => le_trans⟩

instance : Std.Antisymm inUtf16 :=
  ⟨fun _ _ hab hba => String.toList_inj.mp (Utf16.encode_injective _ _ (le_antisymm hab hba))⟩

instance stringLe_total : Std.Total (fun a b : String => a ≤ b) := ⟨String.le_total⟩

instance stringLe_trans : IsTrans String (fun a b => a ≤ b) := ⟨fun _ _ _ => String.le_trans⟩

instance stringLe_antisymm : Std.Antisymm (fun a b : String => a ≤ b) := ⟨fun _ _ => String.le_antisymm⟩

def parseId (s : String) : Option CtxId := (CtxId.parse s).toOption

def ids (r : String → String → Prop) [DecidableRel r] (v : Json) : List CtxId :=
    (strings r v).filterMap parseId

section Walk

def addId (out : List CtxId) (id : CtxId) : List CtxId :=
  if maxDerivedFrom ≤ out.length ∨ id ∈ out then out else out ++ [id]

theorem foldl_addId_full (l out : List CtxId) (h : maxDerivedFrom ≤ out.length) :
    l.foldl addId out = out := by
  induction l with
  | nil => rfl
  | cons id l ih => rw [List.foldl_cons, addId, if_pos (.inl h), ih]

theorem walkItems_eq_map (items : List Json) : walkItems items = items.map walk := by
  induction items with
  | nil => rw [walkItems, List.map_nil]
  | cons v rest ih => rw [walkItems, ih, List.map_cons]

theorem walkMembers_eq_map (members : List (String × Json)) :
    walkMembers members = members.map (fun m => (m.1, walk m.2)) := by
  induction members with
  | nil => rw [walkMembers, List.map_nil]
  | cons m rest ih =>
    obtain ⟨k, v⟩ := m
    rw [walkMembers, ih, List.map_cons]

theorem ids_arr (r : String → String → Prop) [DecidableRel r] (items : List Json) :
    ids r (.arr items) = items.flatMap (ids r) := by
  rw [ids, strings_arr, List.filterMap_flatMap]
  rfl

theorem ids_obj (r : String → String → Prop) [DecidableRel r] (members : List (String × Json)) :
    ids r (.obj members) = (sortBy r members).flatMap (fun m => ids r m.2) := by
  rw [ids, strings_obj, List.filterMap_flatMap]
  rfl

theorem walk_eq (v : Json) (out : List CtxId) : walk v out = (ids inUtf16 v).foldl addId out := by
  induction v using Json.induction generalizing out with
  | null => simp [walk, ids, strings]
  | bool b => simp [walk, ids, strings]
  | num n => simp [walk, ids, strings]
  | str s =>
    by_cases hfull : maxDerivedFrom ≤ out.length
    · rw [walk, if_pos hfull, foldl_addId_full _ _ hfull]
    · cases hparse : CtxId.parse s with
      | error e => simp [walk, ids, strings, parseId, hparse, Except.toOption]
      | ok id => simp [walk, ids, strings, parseId, hparse, Except.toOption, hfull, addId]
  | arr items ih =>
    by_cases hfull : maxDerivedFrom ≤ out.length
    · rw [walk, if_pos hfull, foldl_addId_full _ _ hfull]
    · rw [walk, if_neg hfull, walkItems_eq_map, ids_arr, List.foldl_map, List.foldl_flatMap]
      exact List.foldl_ext _ _ _ (fun out v hv => ih v hv out)
  | obj members ih =>
    by_cases hfull : maxDerivedFrom ≤ out.length
    · rw [walk, if_pos hfull, foldl_addId_full _ _ hfull]
    · have hsort : (members.map (fun m => (m.1, walk m.2))).insertionSort utf16Le =
          (sortBy inUtf16 members).map (fun m => (m.1, walk m.2)) := map_sortBy inUtf16 walk members
      rw [walk, if_neg hfull, walkMembers_eq_map, ids_obj, hsort, List.foldl_map, List.foldl_flatMap]
      exact List.foldl_ext _ _ _ (fun out m hm => ih m ((mem_sortBy _ members m).mp hm) out)

def firstIds (l : List CtxId) : List CtxId := (firstsBy id l).take maxDerivedFrom

theorem foldl_addId (l : List CtxId) : l.foldl addId [] = firstIds l := by
  induction l using List.reverseRecOn with
  | nil => rfl
  | append_singleton l c ih =>
    rw [List.foldl_append, List.foldl_cons, List.foldl_nil, ih, firstIds, firstIds, firstsBy_concat,
      addFirst, addId, List.map_id, id_eq]
    by_cases hlong : maxDerivedFrom ≤ (firstsBy id l).length
    · rw [if_pos (.inl (by rw [List.length_take]; omega))]
      split_ifs
      · rfl
      · rw [List.take_append_of_le_length hlong]
    · rw [List.take_of_length_le (by omega)]
      by_cases hmem : c ∈ firstsBy id l
      · rw [if_pos (.inr hmem), if_pos hmem, List.take_of_length_le (by omega)]
      · rw [if_neg (not_or.mpr ⟨hlong, hmem⟩), if_neg hmem, List.take_of_length_le (by simp; omega)]

theorem derivedFrom_eq (v : Json) : derivedFrom v = firstIds (ids inUtf16 v) := by
  rw [derivedFrom, walk_eq, foldl_addId]

end Walk

section Alignment

def HasId (v : Json) : Prop := ids (· ≤ ·) v ≠ []

/-- No object has ctx_ids under two names that its canonical text puts out of their UTF-16 order. -/
inductive Aligned : Json → Prop
  | null : Aligned .null
  | bool (b : Bool) : Aligned (.bool b)
  | num (n : Number) : Aligned (.num n)
  | str (s : String) : Aligned (.str s)
  | arr (items : List Json) (h : ∀ v ∈ items, Aligned v) : Aligned (.arr items)
  | obj (members : List (String × Json)) (h : ∀ m ∈ members, Aligned m.2)
    (hnames : ∀ a ∈ members, ∀ b ∈ members, HasId a.2 → HasId b.2 → ¬ Utf16.Straddles a.1.toList b.1.toList) :
    Aligned (.obj members)

theorem inUtf16_iff (a b : String) (hab : ¬ Utf16.Straddles a.toList b.toList)
    (hba : ¬ Utf16.Straddles b.toList a.toList) : inUtf16 a b ↔ a ≤ b := by
  rw [inUtf16, encodeUtf16, encodeUtf16, ← not_lt, Utf16.encode_lt_iff]
  simp only [hab, hba, not_false_eq_true, and_true, or_false, ← String.lt_iff_toList_lt]
  exact Iff.rfl

variable (p : Number → Prop)

theorem ids_perm (v : Json) : (ids inUtf16 v).Perm (ids (· ≤ ·) v) := by
  induction v using Json.induction with
  | null => exact .refl _
  | bool b => exact .refl _
  | num n => exact .refl _
  | str s => exact .refl _
  | arr items ih =>
    rw [ids_arr, ids_arr]
    exact List.Perm.flatMap_left items (fun v hv => ih v hv)
  | obj members ih =>
    rw [ids_obj, ids_obj]
    have horder := ((sortBy_perm inUtf16 members).trans (sortBy_perm (· ≤ ·) members).symm).flatMap_right
      (fun m => ids inUtf16 m.2)
    refine horder.trans (List.Perm.flatMap_left _ (fun m hm => ?_))
    exact ih m ((mem_sortBy _ members m).mp hm)

theorem ids_eq_of_aligned (v : Json) (hv : Valid p v) (h : Aligned v) : ids inUtf16 v = ids (· ≤ ·) v := by
  induction v using Json.induction with
  | null => rfl
  | bool b => rfl
  | num n => rfl
  | str s => rfl
  | arr items ih =>
    rw [Valid, Json.validItems_iff] at hv
    cases h with
    | arr _ hitems =>
      rw [ids_arr, ids_arr]
      exact List.flatMap_congr (fun v hmem => ih v hmem (hv v hmem) (hitems v hmem))
  | obj members ih =>
    rw [Valid, Json.validMembers_iff] at hv
    cases h with
    | obj _ hmembers hnames =>
      have heq : (sortBy inUtf16 members).flatMap (fun m => ids inUtf16 m.2) =
          (sortBy inUtf16 members).flatMap (fun m => ids (· ≤ ·) m.2) := by
        refine List.flatMap_congr (fun m hm => ?_)
        rw [mem_sortBy] at hm
        exact ih m hm (hv.2 m hm) (hmembers m hm)
      rw [ids_obj, ids_obj, heq]
      refine flatMap_sortBy_congr (· ≤ ·) inUtf16 members hv.1 _ (fun a ha b hb hida hidb => ?_)
      exact (inUtf16_iff a.1 b.1 (hnames a ha b hb hida hidb) (hnames b hb a ha hidb hida)).mp

theorem not_inUtf16_of_straddles (a b : String) (h : Utf16.Straddles a.toList b.toList) : ¬ inUtf16 a b := by
  rw [inUtf16, encodeUtf16, encodeUtf16, not_le, Utf16.encode_lt_iff]
  exact .inr h

theorem aligned_of_ids_eq (v : Json) (hv : Valid p v) (hnodup : (ids (· ≤ ·) v).Nodup)
    (h : ids inUtf16 v = ids (· ≤ ·) v) : Aligned v := by
  induction v using Json.induction with
  | null => exact .null
  | bool b => exact .bool b
  | num n => exact .num n
  | str s => exact .str s
  | arr items ih =>
    rw [Valid, Json.validItems_iff] at hv
    rw [ids_arr] at hnodup
    rw [ids_arr, ids_arr] at h
    refine .arr items (fun v hmem => ih v hmem (hv v hmem) ((List.nodup_flatMap.mp hnodup).1 v hmem) ?_)
    exact piece_eq items items _ _ hnodup h (fun v _ => ids_perm v) v hmem hmem
  | obj members ih =>
    rw [Valid, Json.validMembers_iff] at hv
    rw [ids_obj] at hnodup
    rw [ids_obj, ids_obj] at h
    refine .obj members (fun m hm => ?_) (fun a ha b hb hida hidb hstraddles => ?_)
    · have hm' := (mem_sortBy (· ≤ ·) members m).mpr hm
      refine ih m hm (hv.2 m hm) ((List.nodup_flatMap.mp hnodup).1 m hm') ?_
      exact piece_eq _ _ (fun m => ids (· ≤ ·) m.2) (fun m => ids inUtf16 m.2) hnodup h
        (fun m _ => ids_perm m.2) m hm' ((mem_sortBy inUtf16 members m).mpr hm)
    · -- The two orders disagree on the names, so an id of one comes before and after an id of the other.
      obtain ⟨x, hx⟩ := List.exists_mem_of_ne_nil _ hida
      obtain ⟨y, hy⟩ := List.exists_mem_of_ne_nil _ hidb
      have hab := sublist_pair_sortBy (· ≤ ·) members a b ha hb
        (fun hle => Jcs.not_straddles_of_le b.1 a.1 hle hstraddles)
      have hba := sublist_pair_sortBy inUtf16 members b a hb ha (not_inUtf16_of_straddles a.1 b.1 hstraddles)
      have hxy := sublist_pair_flatMap _ (fun m => ids (· ≤ ·) m.2) a b hab x y hx hy
      have hyx := sublist_pair_flatMap _ (fun m => ids inUtf16 m.2) b a hba y x
        ((ids_perm b.2).mem_iff.mpr hy) ((ids_perm a.2).mem_iff.mpr hx)
      rw [h] at hyx
      exact not_sublist_both _ hnodup x y hxy hyx

theorem firstIds_of_nodup (l : List CtxId) (h : l.Nodup) (hlength : l.length ≤ maxDerivedFrom) :
    firstIds l = l := by
  have hfirsts : firstsBy id l = l := by
    clear hlength
    induction l using List.reverseRecOn with
    | nil => rfl
    | append_singleton l c ih =>
      obtain ⟨hl, -, hdisjoint⟩ := List.nodup_append.mp h
      rw [firstsBy_concat_new id l c, ih hl]
      rw [List.map_id]
      exact fun hc => hdisjoint c hc c List.mem_cons_self rfl
  rw [firstIds, hfirsts, List.take_of_length_le hlength]

/-- The ctx_ids that the bytes hold as values, in the order in which they first occur there. -/
def idsInBytes (fmt : Jcs.FloatFormat) (v : Json) : List CtxId :=
  ((pieces fmt v).filterMap Piece.value?).filterMap parseId

/-- `derived_from` follows the bytes that are hashed wherever no object has ctx_ids under two names that
the text puts out of their UTF-16 order; where the ctx_ids are different and within the cap, only there. -/
theorem derivedFrom_follows_bytes (fmt : Jcs.FloatFormat) (v : Json) (hv : Valid p v) (bytes : List UInt8)
    (hbytes : Jcs.tryCanonicalizeValue fmt v = .ok bytes) :
    bytes = utf8 (String.ofList ((pieces fmt v).flatMap Piece.text)) ∧
      (∀ w, Valid p w → Same (· = ·) v w → derivedFrom w = derivedFrom v) ∧
      (Aligned v → derivedFrom v = firstIds (idsInBytes fmt v)) ∧
      ((idsInBytes fmt v).Nodup → (idsInBytes fmt v).length ≤ maxDerivedFrom →
        (derivedFrom v = firstIds (idsInBytes fmt v) ↔ Aligned v)) := by
  have hids : idsInBytes fmt v = ids (· ≤ ·) v := by
    rw [idsInBytes, Jcs.values_pieces]
    rfl
  have haligned : Aligned v → derivedFrom v = firstIds (idsInBytes fmt v) := by
    intro h
    rw [derivedFrom_eq, ids_eq_of_aligned p v hv h, hids]
  refine ⟨?_, fun w hw hsame => ?_, haligned, fun hnodup hlength => ⟨fun h => ?_, haligned⟩⟩
  · cases htext : Jcs.writeValue fmt 0 v with
    | error e =>
      rw [Jcs.tryCanonicalizeValue, htext] at hbytes
      cases hbytes
    | ok text =>
      rw [Jcs.tryCanonicalizeValue, htext] at hbytes
      rw [← Jcs.render_eq_pieces, ← Jcs.writeValue_eq_render fmt 0 v text htext]
      exact (Except.ok.inj hbytes).symm
  · rw [derivedFrom_eq, derivedFrom_eq, ids, ids, Jcs.strings_eq_of_same inUtf16 p _ v w hv hw hsame]
  · rw [hids] at hnodup hlength h
    have hperm := ids_perm v
    rw [derivedFrom_eq, firstIds_of_nodup _ (hperm.nodup_iff.mpr hnodup) (hperm.length_eq ▸ hlength),
      firstIds_of_nodup _ hnodup hlength] at h
    exact aligned_of_ids_eq p v hv hnodup h

def firstCtxId : CtxId := "acdp://r.example/6b1e3f0a-8d2c-4c55-9f3e-0a7d5c1b2e44"

def secondCtxId : CtxId := "acdp://r.example/0f8b7c52-3a94-4d1e-b6c7-91d2e3f4a5b6"

def twoNames (a b : String) : Json := .obj [(a, .str firstCtxId), (b, .str secondCtxId)]

theorem plain_arguments_follow :
    derivedFrom (twoNames "to" "from") = firstIds (idsInBytes (fun _ => Jcs.one) (twoNames "to" "from")) := by
  have hvalid : Valid (fun _ => True) (twoNames "to" "from") := by
    simp [twoNames, Valid, Json.ValidMembers]
  have hbytes := Jcs.tryCanonicalizeValue_ok (fun _ => Jcs.one) (twoNames "to" "from") (by decide)
  refine (derivedFrom_follows_bytes (fun _ => True) _ _ hvalid _ hbytes).2.2.1 (.obj _ ?_ ?_)
  · intro m hm
    rw [List.mem_pair] at hm
    rcases hm with rfl | rfl
    · exact .str _
    · exact .str _
  · have hplain : ∀ name ∈ ["to", "from"], name.toList.all (fun c => c.toNat < 0x80) = true := by decide
    rintro a - b hb - - ⟨common, x, y, s, t, -, hb', hcross⟩
    have hname : b.1 ∈ ["to", "from"] := by
      rw [List.mem_pair] at hb
      rcases hb with rfl | rfl <;> simp
    have hy := of_decide_eq_true (List.all_eq_true.mp (hplain b.1 hname) y (by rw [hb']; simp))
    have := hcross.2.2
    omega

theorem crossed_names_disagree :
    derivedFrom (twoNames "😀" "\uFB33") = [firstCtxId, secondCtxId] ∧
      firstIds (idsInBytes (fun _ => Jcs.one) (twoNames "😀" "\uFB33")) = [secondCtxId, firstCtxId] := by
  decide +kernel

end Alignment

end Acdp.Mcp
