import Acdp.Jcs.Canonicalize
import Acdp.Types.JsonSame
import Acdp.Foundation.Delimited
import Mathlib.Order.Basic

namespace Acdp.Jcs

open Acdp.Types
open Acdp.Types.Json (Valid Same depth)
open Acdp.Crypto (utf8)
open Acdp.Foundation.Delimited

section Strings

def hexVal (c : Char) : ℕ := if c.isDigit then c.toNat - 48 else c.toNat - 87

def unescape : List Char → Option (Char × List Char)
  | [] => none
  | c :: s =>
    if c = '\\' then
      match s with
      | [] => none
      | x :: s =>
        if x = 'n' then some ('\n', s)
        else if x = 'r' then some ('\r', s)
        else if x = 't' then some ('\t', s)
        else if x = 'u' then
          match s with
          | _ :: _ :: h :: l :: s => some (Char.ofNat (16 * hexVal h + hexVal l), s)
          | _ => none
        else some (x, s)
    else some (c, s)

theorem ofNat_hexVal : ∀ n < 0x20,
    Char.ofNat (16 * hexVal (Nat.digitChar (n / 16 % 16)) + hexVal (Nat.digitChar (n % 16))) =
      Char.ofNat n := by
  decide +kernel

theorem unescape_escapeChar (c : Char) (s : List Char) : unescape (escapeChar c ++ s) = some (c, s) := by
  rw [escapeChar]
  split_ifs with hquote hback hn hr ht hctl
  · subst hquote
    rfl
  · subst hback
    rfl
  · subst hn
    rfl
  · subst hr
    rfl
  · subst ht
    rfl
  · have h := ofNat_hexVal c.toNat hctl
    rw [Char.ofNat_toNat] at h
    simp [unescape, hex4, h]
  · simp [unescape, hback]

theorem escapeChar_selfDelimiting : SelfDelimiting escapeChar := by
  intro a b s t h
  have hab : some (a, s) = some (b, t) := by
    rw [← unescape_escapeChar a s, h, unescape_escapeChar]
  simpa using hab

theorem escapeChar_head (c : Char) : ∃ x rest, escapeChar c = x :: rest ∧ x ≠ '"' := by
  rw [escapeChar]
  split_ifs with hquote <;> first | exact ⟨_, _, rfl, by decide⟩ | exact ⟨_, _, rfl, hquote⟩

theorem writeString_selfDelimiting : SelfDelimiting writeString := by
  intro a b s t h
  simp only [writeString, List.cons_append, List.append_assoc, List.nil_append, List.cons.injEq,
    true_and] at h
  obtain ⟨hab, hst⟩ := flatMap_terminated escapeChar '"' escapeChar_selfDelimiting escapeChar_head _ _ s t h
  exact ⟨String.toList_inj.mp hab, hst⟩

end Strings

section Render

variable (fmt : FloatFormat)

mutual

/-- The text of a value, whatever its depth. -/
def render : Json → List Char
  | .null => "null".toList
  | .bool true => "true".toList
  | .bool false => "false".toList
  | .num n => writeNumber fmt n
  | .str s => writeString s
  | .arr items => writeArray (renderItems items)
  | .obj members => writeObject (renderMembers members)

def renderItems : List Json → List (List Char)
  | [] => []
  | v :: rest => render v :: renderItems rest

def renderMembers : List (String × Json) → List (String × List Char)
  | [] => []
  | (k, v) :: rest => (k, render v) :: renderMembers rest

end

theorem renderItems_eq_map (items : List Json) : renderItems fmt items = items.map (render fmt) := by
  induction items with
  | nil => rw [renderItems, List.map_nil]
  | cons v rest ih => rw [renderItems, ih, List.map_cons]

theorem renderMembers_eq_map (members : List (String × Json)) :
    renderMembers fmt members = members.map (fun m => (m.1, render fmt m.2)) := by
  induction members with
  | nil => rw [renderMembers, List.map_nil]
  | cons m rest ih =>
    obtain ⟨k, v⟩ := m
    rw [renderMembers, ih, List.map_cons]

theorem writeItems_ok (d : ℕ) (items : List Json)
    (h : ∀ v ∈ items, writeValue fmt d v = .ok (render fmt v)) :
    writeItems fmt d items = .ok (renderItems fmt items) := by
  induction items with
  | nil => rw [writeItems, renderItems]
  | cons v rest ih =>
    rw [List.forall_mem_cons] at h
    rw [writeItems, renderItems, h.1, ih h.2]
    rfl

theorem writeMembers_ok (d : ℕ) (members : List (String × Json))
    (h : ∀ m ∈ members, writeValue fmt d m.2 = .ok (render fmt m.2)) :
    writeMembers fmt d members = .ok (renderMembers fmt members) := by
  induction members with
  | nil => rw [writeMembers, renderMembers]
  | cons m rest ih =>
    obtain ⟨k, v⟩ := m
    rw [List.forall_mem_cons] at h
    rw [writeMembers, renderMembers, h.1, ih h.2]
    rfl

theorem writeValue_ok (d : ℕ) (v : Json) (hd : d + depth v ≤ maxJcsDepth) :
    writeValue fmt d v = .ok (render fmt v) := by
  induction v using Json.induction generalizing d with
  | null =>
    rw [writeValue, if_neg (by omega), render]
  | bool b =>
    cases b <;> rw [writeValue, if_neg (by omega), render]
  | num n =>
    rw [writeValue, if_neg (by omega), render]
  | str s =>
    rw [writeValue, if_neg (by omega), render]
  | arr items ih =>
    rw [depth] at hd
    have hitems := (Json.depthItems_le_iff items (maxJcsDepth - d)).mp (by omega)
    rw [writeValue, if_neg (by omega), render,
      writeItems_ok fmt (d + 1) items (fun v hv => ih v hv (d + 1) (by have := hitems v hv; omega))]
    rfl
  | obj members ih =>
    rw [depth] at hd
    have hmembers := (Json.depthMembers_le_iff members (maxJcsDepth - d)).mp (by omega)
    rw [writeValue, if_neg (by omega), render,
      writeMembers_ok fmt (d + 1) members (fun m hm => ih m hm (d + 1) (by have := hmembers m hm; omega))]
    rfl

theorem writeItems_deep (d : ℕ) (items : List Json)
    (hall : ∀ v ∈ items, writeValue fmt d v = .ok (render fmt v) ∨ writeValue fmt d v = .error depthError)
    (h : ∃ v ∈ items, writeValue fmt d v = .error depthError) : writeItems fmt d items =
      .error depthError := by
  induction items with
  | nil => simp at h
  | cons v rest ih =>
    rw [List.forall_mem_cons] at hall
    rw [writeItems]
    rcases hall.1 with hok | herr
    · have hrest : ∃ u ∈ rest, writeValue fmt d u = .error depthError := by
        obtain ⟨u, hu, herr⟩ := h
        rcases List.mem_cons.mp hu with rfl | hu
        · rw [hok] at herr
          cases herr
        · exact ⟨u, hu, herr⟩
      rw [hok, ih hall.2 hrest]
      rfl
    · rw [herr]
      rfl

theorem writeMembers_deep (d : ℕ) (members : List (String × Json))
    (hall : ∀ m ∈ members, writeValue fmt d m.2 = .ok (render fmt m.2) ∨
      writeValue fmt d m.2 = .error depthError)
    (h : ∃ m ∈ members, writeValue fmt d m.2 = .error depthError) :
    writeMembers fmt d members = .error depthError := by
  induction members with
  | nil => simp at h
  | cons m rest ih =>
    obtain ⟨k, v⟩ := m
    rw [List.forall_mem_cons] at hall
    rw [writeMembers]
    rcases hall.1 with hok | herr
    · have hrest : ∃ m ∈ rest, writeValue fmt d m.2 = .error depthError := by
        obtain ⟨u, hu, herr⟩ := h
        rcases List.mem_cons.mp hu with rfl | hu
        · rw [hok] at herr
          cases herr
        · exact ⟨u, hu, herr⟩
      rw [hok, ih hall.2 hrest]
      rfl
    · rw [herr]
      rfl

theorem writeValue_deep (d : ℕ) (v : Json) (hd : maxJcsDepth < d + depth v) :
    writeValue fmt d v = .error depthError := by
  have hcases : ∀ u, (∀ e, maxJcsDepth < e + depth u → writeValue fmt e u = .error depthError) → ∀ e,
      writeValue fmt e u = .ok (render fmt u) ∨ writeValue fmt e u = .error depthError := by
    intro u hu e
    by_cases he : maxJcsDepth < e + depth u
    · exact .inr (hu e he)
    · exact .inl (writeValue_ok fmt e u (by omega))
  have hover : ∀ {e : ℕ} (u : Json), maxJcsDepth < e → writeValue fmt e u = .error depthError := by
    intro e u he
    rw [writeValue.eq_def, if_pos he]
  induction v using Json.induction generalizing d with
  | null => exact hover _ (by simpa only [depth, Nat.add_zero] using hd)
  | bool b => exact hover _ (by simpa only [depth, Nat.add_zero] using hd)
  | num n => exact hover _ (by simpa only [depth, Nat.add_zero] using hd)
  | str s => exact hover _ (by simpa only [depth, Nat.add_zero] using hd)
  | arr items ih =>
    rw [depth] at hd
    by_cases hroom : maxJcsDepth < d
    · exact hover _ hroom
    · have hdeep : ∃ v ∈ items, writeValue fmt (d + 1) v = .error depthError := by
        by_contra hnone
        push Not at hnone
        have hle := (Json.depthItems_le_iff items (maxJcsDepth - d)).mpr (fun v hv => by
          by_contra hlt
          exact hnone v hv (ih v hv (d + 1) (by omega)))
        omega
      rw [writeValue, if_neg hroom,
        writeItems_deep fmt (d + 1) items (fun v hv => hcases v (fun e => ih v hv e) (d + 1)) hdeep]
      rfl
  | obj members ih =>
    rw [depth] at hd
    by_cases hroom : maxJcsDepth < d
    · exact hover _ hroom
    · have hdeep : ∃ m ∈ members, writeValue fmt (d + 1) m.2 = .error depthError := by
        by_contra hnone
        push Not at hnone
        have hle := (Json.depthMembers_le_iff members (maxJcsDepth - d)).mpr (fun m hm => by
          by_contra hlt
          exact hnone m hm (ih m hm (d + 1) (by omega)))
        omega
      rw [writeValue, if_neg hroom,
        writeMembers_deep fmt (d + 1) members (fun m hm => hcases m.2 (fun e => ih m hm e) (d + 1)) hdeep]
      rfl

theorem writeObject_renderMembers (members : List (String × Json)) :
    writeObject (renderMembers fmt members) =
      '\x7b' :: ([','].intercalate ((sortKeys members).map (fun m => writeMember (m.1, render fmt m.2))) ++
        ['\x7d']) := by
  have hsort : sortKeys (renderMembers fmt members) =
      (sortKeys members).map (fun m => (m.1, render fmt m.2)) := by
    rw [renderMembers_eq_map]
    symm
    apply List.map_insertionSort keyLe keyLe
    intro a _ b _
    rfl
  rw [writeObject, hsort, List.map_map]
  rfl

end Render

section Decode

variable (fmt : FloatFormat)

def SameNumber (m n : Number) : Prop := writeNumber fmt m = writeNumber fmt n

theorem sameNumber_of_numberEq (m n : Number) (h : Json.numberEq m n = true) :
    SameNumber fmt m n := by
  cases m <;> cases n <;> simp only [Json.numberEq, beq_iff_eq, Bool.or_eq_true, Bool.and_eq_true] at h <;>
    first | (rw [h]; rfl) | skip
  next a b =>
    rcases h with rfl | ⟨ha, hb⟩
    · rfl
    · have hzero (bits : UInt64) (hbits : bits = 0 ∨ bits = 0x8000000000000000) :
          writeNumber fmt (.float bits) = ['0'] := by
        rw [writeNumber, if_pos]
        rcases hbits with rfl | rfl <;> decide
      exact (hzero a ha).trans (hzero b hb).symm

def leadKind (c : Char) : ℕ :=
  if c = 'n' then 0
  else if c = 't' then 1
  else if c = 'f' then 2
  else if c = '"' then 3
  else if c = '[' then 4
  else if c = '\x7b' then 5
  else if isNumberChar c then 6
  else 7

def valueKind : Json → ℕ
  | .null => 0
  | .bool true => 1
  | .bool false => 2
  | .str _ => 3
  | .arr _ => 4
  | .obj _ => 5
  | .num _ => 6

theorem leadKind_of_isNumberChar (c : Char) (h : isNumberChar c = true) : leadKind c = 6 := by
  have hne : ∀ x, isNumberChar x = false → c ≠ x := by
    rintro x hx rfl
    rw [h] at hx
    cases hx
  rw [leadKind, if_neg (hne _ (by decide)), if_neg (hne _ (by decide)), if_neg (hne _ (by decide)),
    if_neg (hne _ (by decide)), if_neg (hne _ (by decide)), if_neg (hne _ (by decide)), if_pos h]

theorem render_lead (v : Json) (hv : Valid NumberValid v) :
    ∃ c rest, render fmt v = c :: rest ∧ leadKind c = valueKind v := by
  cases v with
  | null => exact ⟨'n', "ull".toList, rfl, rfl⟩
  | bool b =>
    cases b with
    | false => exact ⟨'f', "alse".toList, rfl, rfl⟩
    | true => exact ⟨'t', "rue".toList, rfl, rfl⟩
  | num n =>
    obtain ⟨hne, hall⟩ := writeNumber_isNumberChar fmt n hv
    obtain ⟨c, rest, hc⟩ := List.exists_cons_of_ne_nil hne
    refine ⟨c, rest, hc, leadKind_of_isNumberChar c (hall c ?_)⟩
    rw [hc]
    exact List.mem_cons_self
  | str s => exact ⟨'"', _, rfl, rfl⟩
  | arr items => exact ⟨'[', _, rfl, rfl⟩
  | obj members => exact ⟨'\x7b', _, rfl, rfl⟩

theorem valueKind_lt (v : Json) : valueKind v < 7 := by
  cases v with
  | bool b => cases b <;> decide
  | _ => simp [valueKind]

theorem valueKind_eq_of_append (a b : Json) (ha : Valid NumberValid a) (hb : Valid NumberValid b)
    (s t : List Char) (h : render fmt a ++ s = render fmt b ++ t) : valueKind a = valueKind b := by
  obtain ⟨c, rest, hc, hkind⟩ := render_lead fmt a ha
  obtain ⟨c', rest', hc', hkind'⟩ := render_lead fmt b hb
  rw [hc, hc'] at h
  rw [← hkind, ← hkind', (List.cons.inj h).1]

theorem render_append_ne_close (v : Json) (hv : Valid NumberValid v) (close : Char)
    (hclose : leadKind close = 7) (s t : List Char) : render fmt v ++ s ≠ close :: t := by
  intro h
  obtain ⟨c, rest, hc, hkind⟩ := render_lead fmt v hv
  rw [hc] at h
  rw [(List.cons.inj h).1, hclose] at hkind
  have := valueKind_lt v
  omega

def Stops (s : List Char) : Prop := ∀ c ∈ s.head?, isNumberChar c = false

theorem stops_cons (c : Char) (h : isNumberChar c = false) (s : List Char) : Stops (c :: s) := by
  rintro _ ⟨⟩
  exact h

/-- `a` can be told from every other value by its text. -/
def Decodes (a : Json) : Prop :=
  ∀ b, Valid NumberValid a → Valid NumberValid b → ∀ s t, Stops s → Stops t →
    render fmt a ++ s = render fmt b ++ t → Same (SameNumber fmt) a b ∧ s = t

theorem decodes_arr (items : List Json) (ih : ∀ v ∈ items, Decodes fmt v) : Decodes fmt (.arr items) := by
  intro b ha hb s t hs ht h
  have hkind := valueKind_eq_of_append fmt _ b ha hb s t h
  cases b with
  | arr items' =>
    rw [Valid, Json.validItems_iff] at ha hb
    rw [Same, Json.sameItems_iff]
    simp only [render, writeArray, renderItems_eq_map, List.cons_append, List.append_assoc, List.nil_append,
      List.cons.injEq, true_and] at h
    have hsep := forall₂_of_separated (Same (SameNumber fmt)) Stops ',' ']' (by decide)
      (stops_cons ',' (by decide)) (stops_cons ']' (by decide))
      (items.map (fun v => (v, render fmt v))) (items'.map (fun v => (v, render fmt v))) s t
    simp only [List.forall_mem_map, List.map_map] at hsep
    have hout := hsep (fun v hv w hw => ih v hv w (ha v hv) (hb w hw))
      (fun v hv => render_append_ne_close fmt v (ha v hv) ']' (by decide))
      (fun w hw => render_append_ne_close fmt w (hb w hw) ']' (by decide)) h
    have hfst : (Prod.fst ∘ fun v => (v, render fmt v)) = id := rfl
    rwa [hfst, List.map_id, List.map_id] at hout
  | bool x => cases x <;> simp [valueKind] at hkind
  | _ => simp [valueKind] at hkind

def SameMember (m n : String × Json) : Prop := m.1 = n.1 ∧ Same (SameNumber fmt) m.2 n.2

theorem lookup_rel_of_forall₂ (as bs : List (String × Json)) (h : List.Forall₂ (SameMember fmt) as bs)
    (k : String) : Option.Rel (Same (SameNumber fmt)) (as.lookup k) (bs.lookup k) := by
  induction h with
  | nil => exact .none
  | @cons m n as bs hmn _ ih =>
    rw [List.lookup_cons, List.lookup_cons, hmn.1]
    split
    · exact .some hmn.2
    · exact ih

theorem sortKeys_perm {α : Type} (members : List (String × α)) : (sortKeys members).Perm members :=
  List.perm_insertionSort keyLe members

theorem lookup_sortKeys {α : Type} (members : List (String × α)) (h : (members.map Prod.fst).Nodup)
    (k : String) : (sortKeys members).lookup k = members.lookup k := by
  have hperm := sortKeys_perm members
  have hsorted : ((sortKeys members).map Prod.fst).Nodup := (hperm.map Prod.fst).nodup_iff.mpr h
  cases hm : members.lookup k with
  | some v =>
    have hmem := hperm.mem_iff.mpr (Json.mem_of_lookup k v members hm)
    exact Json.lookup_of_mem k v _ hsorted hmem
  | none =>
    rw [Json.lookup_eq_none_iff_not_mem] at hm ⊢
    rwa [(hperm.map Prod.fst).mem_iff]

theorem writeMember_append_ne_close (m : String × List Char) (s t : List Char) :
    writeMember m ++ s ≠ '\x7d' :: t := by
  intro h
  have hhead : '"' = '\x7d' := (List.cons.inj h).1
  exact absurd hhead (by decide)

theorem decodes_obj (members : List (String × Json)) (ih : ∀ m ∈ members, Decodes fmt m.2) :
    Decodes fmt (.obj members) := by
  intro b ha hb s t hs ht h
  have hkind := valueKind_eq_of_append fmt _ b ha hb s t h
  cases b with
  | obj members' =>
    rw [Valid, Json.validMembers_iff] at ha hb
    rw [Json.same_obj_iff_lookup _ _ _ ha.1 hb.1]
    simp only [render, writeObject_renderMembers, List.cons_append, List.append_assoc, List.nil_append,
      List.cons.injEq, true_and] at h
    have hsep := forall₂_of_separated (SameMember fmt) Stops ',' '\x7d' (by decide)
      (stops_cons ',' (by decide)) (stops_cons '\x7d' (by decide))
      ((sortKeys members).map (fun m => (m, writeMember (m.1, render fmt m.2))))
      ((sortKeys members').map (fun m => (m, writeMember (m.1, render fmt m.2)))) s t
    simp only [List.forall_mem_map, List.map_map] at hsep
    have hread : ∀ m ∈ sortKeys members, ∀ n ∈ sortKeys members', ∀ s t, Stops s → Stops t →
        writeMember (m.1, render fmt m.2) ++ s = writeMember (n.1, render fmt n.2) ++ t →
          SameMember fmt m n ∧ s = t := by
      intro m hm n hn s t hs ht heq
      replace hm := (sortKeys_perm members).mem_iff.mp hm
      replace hn := (sortKeys_perm members').mem_iff.mp hn
      simp only [writeMember, List.append_assoc, List.cons_append] at heq
      obtain ⟨hkey, hval⟩ := writeString_selfDelimiting _ _ _ _ heq
      obtain ⟨hsame, hst⟩ := ih m hm n.2 (ha.2 m hm) (hb.2 n hn) s t hs ht (List.cons.inj hval).2
      exact ⟨⟨hkey, hsame⟩, hst⟩
    have hout := hsep hread (fun m _ => writeMember_append_ne_close _)
      (fun n _ => writeMember_append_ne_close _) h
    have hfst : (Prod.fst ∘ fun m : String × Json => (m, writeMember (m.1, render fmt m.2))) = id := rfl
    rw [hfst, List.map_id, List.map_id] at hout
    refine ⟨fun k => ?_, hout.2⟩
    rw [← lookup_sortKeys members ha.1, ← lookup_sortKeys members' hb.1]
    exact lookup_rel_of_forall₂ fmt _ _ hout.1 k
  | bool x => cases x <;> simp [valueKind] at hkind
  | _ => simp [valueKind] at hkind

theorem decodes (a : Json) : Decodes fmt a := by
  induction a using Json.induction with
  | null =>
    intro b ha hb s t hs ht h
    have hkind := valueKind_eq_of_append fmt _ b ha hb s t h
    cases b with
    | null => exact ⟨trivial, List.append_cancel_left h⟩
    | bool x => cases x <;> simp [valueKind] at hkind
    | _ => simp [valueKind] at hkind
  | bool x =>
    intro b ha hb s t hs ht h
    have hkind := valueKind_eq_of_append fmt _ b ha hb s t h
    cases b with
    | bool y =>
      have hxy : x = y := by cases x <;> cases y <;> simp [valueKind] at hkind ⊢
      subst hxy
      exact ⟨rfl, List.append_cancel_left h⟩
    | _ => cases x <;> simp [valueKind] at hkind
  | num n =>
    intro b ha hb s t hs ht h
    have hkind := valueKind_eq_of_append fmt _ b ha hb s t h
    cases b with
    | num m =>
      exact run_delimited isNumberChar _ _ s t (writeNumber_isNumberChar fmt n ha).2
        (writeNumber_isNumberChar fmt m hb).2 hs ht h
    | bool x => cases x <;> simp [valueKind] at hkind
    | _ => simp [valueKind] at hkind
  | str x =>
    intro b ha hb s t hs ht h
    have hkind := valueKind_eq_of_append fmt _ b ha hb s t h
    cases b with
    | str y => exact writeString_selfDelimiting x y s t h
    | bool x => cases x <;> simp [valueKind] at hkind
    | _ => simp [valueKind] at hkind
  | arr items ih => exact decodes_arr fmt items ih
  | obj members ih => exact decodes_obj fmt members ih

end Decode

section Encode

variable (fmt : FloatFormat)

instance {α : Type} : Std.Total (keyLe (α := α)) := ⟨fun a b => String.le_total a.1 b.1⟩

instance {α : Type} : IsTrans (String × α) keyLe := ⟨fun _ _ _ => String.le_trans⟩

theorem keys_sortKeys_sorted {α : Type} (members : List (String × α)) :
    ((sortKeys members).map Prod.fst).Pairwise (· ≤ ·) := by
  rw [List.pairwise_map]
  exact List.pairwise_insertionSort keyLe members

theorem keys_sortKeys_eq (as bs : List (String × Json)) (has : (as.map Prod.fst).Nodup)
    (hbs : (bs.map Prod.fst).Nodup) (hkeys : ∀ k, as.lookup k = none ↔ bs.lookup k = none) :
    (sortKeys as).map Prod.fst = (sortKeys bs).map Prod.fst := by
  have hperm : (as.map Prod.fst).Perm (bs.map Prod.fst) := by
    apply (List.perm_ext_iff_of_nodup has hbs).mpr
    intro k
    rw [← not_iff_not, ← Json.lookup_eq_none_iff_not_mem, ← Json.lookup_eq_none_iff_not_mem]
    exact hkeys k
  have hsorted : ((sortKeys as).map Prod.fst).Perm ((sortKeys bs).map Prod.fst) :=
    ((sortKeys_perm as).map Prod.fst).trans (hperm.trans ((sortKeys_perm bs).map Prod.fst).symm)
  exact hsorted.eq_of_pairwise (fun _ _ _ _ => String.le_antisymm) (keys_sortKeys_sorted as)
    (keys_sortKeys_sorted bs)

theorem map_eq_of_keys_eq {α β γ : Type} (f : String × α → γ) (g : String × β → γ) (as : List (String × α))
    (bs : List (String × β)) (hkeys : as.map Prod.fst = bs.map Prod.fst)
    (hfg : ∀ m ∈ as, ∀ n ∈ bs, m.1 = n.1 → f m = g n) : as.map f = bs.map g := by
  induction as generalizing bs with
  | nil =>
    cases bs with
    | nil => rfl
    | cons n bs => cases hkeys
  | cons m as ih =>
    cases bs with
    | nil => cases hkeys
    | cons n bs =>
      obtain ⟨hmn, hrest⟩ := List.cons.inj hkeys
      rw [List.map_cons, List.map_cons, hfg m List.mem_cons_self n List.mem_cons_self hmn,
        ih bs hrest (fun m hm n hn => hfg m (.tail _ hm) n (.tail _ hn))]

theorem render_eq_of_same (a b : Json) (ha : Valid NumberValid a) (hb : Valid NumberValid b)
    (h : Same (SameNumber fmt) a b) : render fmt a = render fmt b := by
  induction a using Json.induction generalizing b with
  | null => cases b <;> simp_all [Same]
  | bool x => cases b <;> simp_all [Same]
  | num n =>
    cases b with
    | num m =>
      rw [render, render]
      exact h
    | _ => simp [Same] at h
  | str x => cases b <;> simp_all [Same]
  | arr items ih =>
    cases b with
    | arr items' =>
      rw [Valid, Json.validItems_iff] at ha hb
      rw [Same, Json.sameItems_iff] at h
      have heq : items.map (render fmt) = items'.map (render fmt) := by
        rw [← List.forall₂_eq_eq_eq, List.forall₂_map_left_iff, List.forall₂_map_right_iff]
        have hmem := (List.forall₂_and_left items items').mpr ⟨fun v hv => hv, h⟩
        have hmem' := (List.forall₂_and_left items' items).mpr ⟨fun v hv => hv, hmem.flip⟩
        exact hmem'.flip.imp (fun v w hvw => ih v hvw.2.1 w (ha v hvw.2.1) (hb w hvw.1) hvw.2.2)
      rw [render, render, renderItems_eq_map, renderItems_eq_map, heq]
    | _ => simp [Same] at h
  | obj members ih =>
    cases b with
    | obj members' =>
      rw [Valid, Json.validMembers_iff] at ha hb
      rw [Json.same_obj_iff_lookup _ _ _ ha.1 hb.1] at h
      have hkeys := keys_sortKeys_eq members members' ha.1 hb.1 (fun k => by
        have hk := h k
        cases hx : members.lookup k <;> cases hy : members'.lookup k <;> rw [hx, hy] at hk <;> simp_all)
      rw [render, render, writeObject_renderMembers, writeObject_renderMembers]
      rw [map_eq_of_keys_eq _ (fun m => writeMember (m.1, render fmt m.2)) _ _ hkeys]
      intro m hm n hn hmn
      replace hm := (sortKeys_perm members).mem_iff.mp hm
      replace hn := (sortKeys_perm members').mem_iff.mp hn
      have hk := h m.1
      rw [Json.lookup_of_mem m.1 m.2 members ha.1 hm, hmn, Json.lookup_of_mem n.1 n.2 members' hb.1 hn] at hk
      cases hk with
      | some hsame => rw [hmn, ih m hm n.2 (ha.2 m hm) (hb.2 n hn) hsame]
    | _ => simp [Same] at h

theorem render_eq_iff (a b : Json) (ha : Valid NumberValid a) (hb : Valid NumberValid b) :
    render fmt a = render fmt b ↔ Same (SameNumber fmt) a b := by
  constructor
  · intro h
    have hstop : Stops [] := by
      intro c hc
      cases hc
    exact (decodes fmt a b ha hb [] [] hstop hstop (by rw [h])).1
  · exact render_eq_of_same fmt a b ha hb

theorem utf8_inj (a b : String) : utf8 a = utf8 b ↔ a = b := by
  rw [utf8, utf8, Array.toList_inj, ← ByteArray.ext_iff, String.toByteArray_inj]

theorem tryCanonicalizeValue_ok (v : Json) (h : depth v ≤ 256) :
    tryCanonicalizeValue fmt v = .ok (utf8 (String.ofList (render fmt v))) := by
  rw [tryCanonicalizeValue, writeValue_ok fmt 0 v (by rwa [Nat.zero_add])]
  rfl

theorem tryCanonicalizeValue_deep (v : Json) (h : 256 < depth v) :
    tryCanonicalizeValue fmt v = .error depthError := by
  rw [tryCanonicalizeValue, writeValue_deep fmt 0 v (by rwa [Nat.zero_add])]
  rfl

theorem tryCanonicalizeValue_congr (a b : Json) (ha : Valid NumberValid a) (hb : Valid NumberValid b)
    (h : Same (SameNumber fmt) a b) : tryCanonicalizeValue fmt a = tryCanonicalizeValue fmt b := by
  have hle := Json.depth_le_of_same _ _ a b ha hb h
  have hge := Json.depth_le_of_same _ _ b a hb ha (Json.same_symm _ _ (fun _ _ he => he.symm) a b ha hb h)
  by_cases hd : depth a ≤ 256
  · rw [tryCanonicalizeValue_ok fmt a hd, tryCanonicalizeValue_ok fmt b (by omega),
      render_eq_of_same fmt a b ha hb h]
  · rw [tryCanonicalizeValue_deep fmt a (by omega), tryCanonicalizeValue_deep fmt b (by omega)]

theorem tryCanonicalizeValue_eq_iff (a b : Json) (ha : Valid NumberValid a) (hb : Valid NumberValid b)
    (hda : depth a ≤ 256) (hdb : depth b ≤ 256) :
    ∃ bytes bytes', tryCanonicalizeValue fmt a = .ok bytes ∧ tryCanonicalizeValue fmt b = .ok bytes' ∧
      (bytes = bytes' ↔ Same (SameNumber fmt) a b) := by
  refine ⟨_, _, tryCanonicalizeValue_ok fmt a hda, tryCanonicalizeValue_ok fmt b hdb, ?_⟩
  rw [utf8_inj, String.ofList_inj]
  exact render_eq_iff fmt a b ha hb

end Encode

section Sample

def one : LowerExp := ⟨['1'], 0, mantissa_digits_of_all _ (by decide)⟩

def written : Json :=
  .obj [("b\n", .arr [.num (.float 0x3ff0000000000000), .null]), ("a", .str "\"x\\")]

def reordered : Json := .obj [("a", .str "\"x\\"), ("b\n", .arr [.num (.posInt 1), .null])]

theorem reordered_members_agree :
    Same (SameNumber (fun _ => one)) written reordered ∧
    ∃ bytes bytes', tryCanonicalizeValue (fun _ => one) written = .ok bytes ∧
      tryCanonicalizeValue (fun _ => one) reordered = .ok bytes' ∧
      (bytes = bytes' ↔ Same (SameNumber (fun _ => one)) written reordered) := by
  have hone : SameNumber (fun _ => one) (.float 0x3ff0000000000000) (.posInt 1) := by
    rw [SameNumber]
    decide +kernel
  refine ⟨?_, tryCanonicalizeValue_eq_iff _ _ _ ?_ ?_ (by decide) (by decide)⟩
  · have hitems : Same (SameNumber (fun _ => one)) (.arr [.num (.float 0x3ff0000000000000), .null])
        (.arr [.num (.posInt 1), .null]) := ⟨hone, trivial, trivial⟩
    exact ⟨rfl, ⟨_, rfl, hitems⟩, ⟨_, rfl, rfl⟩, trivial⟩
  · simp [written, Valid, Json.ValidItems, Json.ValidMembers]
    decide
  · simp [reordered, Valid, Json.ValidItems, Json.ValidMembers]
    decide

end Sample

end Acdp.Jcs
