import Acdp.Crypto.Utf8
import Acdp.Foundation.Utf16
import Acdp.Jcs.Injective

namespace Acdp.Jcs

open Acdp.Types
open Acdp.Crypto (utf8 utf8_append utf8_ofList utf8_singleton)
open Acdp.Foundation

section MemberOrder

def objectText (fmt : FloatFormat) (members : List (String × Json)) : List Char :=
  '\x7b' :: ([','].intercalate (members.map (fun m => writeMember (m.1, render fmt m.2))) ++ ['\x7d'])

/-- RFC 8785, section 3.2.3: names are compared as sequences of UTF-16 code units. -/
def Ascending (members : List (String × Json)) : Prop :=
  members.Pairwise (fun a b => Utf16.encode a.1.toList ≤ Utf16.encode b.1.toList)

theorem encode_le_iff (a b : String) (h : a ≤ b) :
    Utf16.encode a.toList ≤ Utf16.encode b.toList ↔ ¬ Utf16.Straddles a.toList b.toList := by
  have hlt : ¬ b.toList < a.toList := by
    rw [← String.lt_iff_toList_lt]
    exact h
  rw [← not_lt, Utf16.encode_lt_iff]
  simp [hlt]

theorem not_straddles_of_le (a b : String) (h : a ≤ b) : ¬ Utf16.Straddles b.toList a.toList := by
  rintro ⟨common, x, y, s, t, hb, ha, hcross⟩
  have hxy : x < y := Nat.lt_of_lt_of_le hcross.2.1 hcross.2.2
  have hlt : b.toList < a.toList := by
    rw [hb, ha]
    exact List.append_left_lt (List.cons_lt_cons_iff.mpr (.inl hxy))
  exact h (String.lt_iff_toList_lt.mpr hlt)

theorem ascending_sortKeys_iff (members : List (String × Json)) :
    Ascending (sortKeys members) ↔
      ∀ a ∈ members, ∀ b ∈ members, ¬ Utf16.Straddles a.1.toList b.1.toList := by
  have hsorted : (sortKeys members).Pairwise (fun a b => a.1 ≤ b.1) :=
    List.pairwise_insertionSort keyLe members
  have hmem (m : String × Json) : m ∈ sortKeys members ↔ m ∈ members := (sortKeys_perm members).mem_iff
  constructor
  · intro hascending
    have hforward : (sortKeys members).Pairwise (fun a b => ¬ Utf16.Straddles a.1.toList b.1.toList) :=
      hsorted.imp₂ (fun a b hle hencode => (encode_le_iff a.1 b.1 hle).mp hencode) hascending
    have hbackward : (sortKeys members).Pairwise (fun a b => ¬ Utf16.Straddles b.1.toList a.1.toList) :=
      hsorted.imp (fun {a b} hle => not_straddles_of_le a.1 b.1 hle)
    have hall := hforward.forall_of_forall_of_flip (fun a _ => not_straddles_of_le a.1 a.1 (String.le_refl _))
      hbackward
    exact fun a ha b hb => hall ((hmem a).mpr ha) ((hmem b).mpr hb)
  · intro h
    refine hsorted.imp_of_mem (fun ha hb hle => ?_)
    exact (encode_le_iff _ _ hle).mpr (h _ ((hmem _).mp ha) _ ((hmem _).mp hb))

theorem writeValue_eq_render (fmt : FloatFormat) (d : ℕ) (v : Json) (text : List Char)
    (h : writeValue fmt d v = .ok text) : text = render fmt v := by
  by_cases hdeep : maxJcsDepth < d + Json.depth v
  · rw [writeValue_deep fmt d v hdeep] at h
    cases h
  · rw [writeValue_ok fmt d v (not_lt.mp hdeep)] at h
    exact (Except.ok.inj h).symm

/-- An object's members are written in the order of their names' code points; that is the order of RFC
8785 exactly when no two names first differ at a character of the supplementary planes in one and of
U+E000..U+FFFF in the other. -/
theorem member_order_iff (fmt : FloatFormat) (d : ℕ) (members : List (String × Json)) (text : List Char)
    (h : writeValue fmt d (.obj members) = .ok text) :
    text = objectText fmt (sortKeys members) ∧ (sortKeys members).Perm members ∧
      (Ascending (sortKeys members) ↔
        ∀ a ∈ members, ∀ b ∈ members, ¬ Utf16.Straddles a.1.toList b.1.toList) := by
  refine ⟨?_, sortKeys_perm members, ascending_sortKeys_iff members⟩
  rw [writeValue_eq_render fmt d _ text h, render, writeObject_renderMembers]
  rfl

theorem plain_names_ordered : Ascending (sortKeys [("tool", .null), ("name", .null)]) := by
  have h : writeValue (fun _ => one) 0 (.obj [("tool", .null), ("name", .null)]) =
      .ok "\x7b\"name\":null,\"tool\":null\x7d".toList := by
    decide +kernel
  refine (member_order_iff _ _ _ _ h).2.2.mpr ?_
  have hplain : ∀ m ∈ ([("tool", .null), ("name", .null)] : List (String × Json)),
      m.1.toList.all (fun c => c.toNat < 0x80) = true := by
    decide
  rintro a - b hb ⟨common, x, y, s, t, -, hb', hcross⟩
  have hy := of_decide_eq_true (List.all_eq_true.mp (hplain b hb) y (by rw [hb']; simp))
  have := hcross.2.2
  omega

theorem emoji_name_out_of_order :
    writeValue (fun _ => one) 0 (.obj [("😀", .null), ("\uFB33", .null)]) =
        .ok (objectText (fun _ => one) [("\uFB33", .null), ("😀", .null)]) ∧
      ¬ Ascending [("\uFB33", .null), ("😀", .null)] := by
  refine ⟨by decide +kernel, ?_⟩
  rw [Ascending, List.pairwise_pair]
  decide

end MemberOrder

section Strings

def hexDigitByte (n : ℕ) : UInt8 := if n < 10 then (48 + n).toUInt8 else (87 + n).toUInt8

def rfcEscape (c : Char) : List UInt8 :=
  match c.toNat with
  | 0x08 => utf8 "\\b"
  | 0x09 => utf8 "\\t"
  | 0x0A => utf8 "\\n"
  | 0x0C => utf8 "\\f"
  | 0x0D => utf8 "\\r"
  | 0x22 => utf8 "\\\""
  | 0x5C => utf8 "\\\\"
  | n => if n < 0x20 then utf8 "\\u00" ++ [hexDigitByte (n / 16), hexDigitByte (n % 16)]
    else utf8 (String.singleton c)

def rfcString (s : String) : List UInt8 := utf8 "\"" ++ s.toList.flatMap rfcEscape ++ utf8 "\""

def Unabbreviated (c : Char) : Prop := c.toNat = 0x08 ∨ c.toNat = 0x0C

instance (c : Char) : Decidable (Unabbreviated c) := inferInstanceAs (Decidable (_ ∨ _))

theorem escapeChar_control : ∀ n < 0x20, n ≠ 0x08 → n ≠ 0x0C →
    utf8 (String.ofList (escapeChar (Char.ofNat n))) = rfcEscape (Char.ofNat n) := by
  decide +kernel

theorem escapeChar_eq_rfc (c : Char) (h : ¬ Unabbreviated c) : utf8 (String.ofList (escapeChar c)) =
    rfcEscape c := by
  by_cases hcontrol : c.toNat < 0x20
  · have hne : c.toNat ≠ 0x08 ∧ c.toNat ≠ 0x0C := not_or.mp h
    have hescape := escapeChar_control c.toNat hcontrol hne.1 hne.2
    rwa [Char.ofNat_toNat] at hescape
  · by_cases hquote : c = '"'
    · subst hquote
      decide +kernel
    by_cases hback : c = '\\'
    · subst hback
      decide +kernel
    have hplain : escapeChar c = [c] := by
      have hne (d : Char) (hd : d.toNat < 0x20) : c ≠ d := by
        rintro rfl
        exact hcontrol hd
      rw [escapeChar, if_neg hquote, if_neg hback, if_neg (hne '\n' (by decide)),
        if_neg (hne '\r' (by decide)), if_neg (hne '\t' (by decide)), if_neg hcontrol]
    have hquote' : c.toNat ≠ 0x22 := fun heq => hquote (Char.toNat_inj.mp heq)
    have hback' : c.toNat ≠ 0x5C := fun heq => hback (Char.toNat_inj.mp heq)
    rw [hplain, rfcEscape]
    split <;> first | omega | skip
    rw [if_neg hcontrol]
    rfl

theorem length_escapeChar (c : Char) (h : Unabbreviated c) :
    (utf8 (String.ofList (escapeChar c))).length = (rfcEscape c).length + 4 := by
  have hc : c = Char.ofNat 0x08 ∨ c = Char.ofNat 0x0C := by
    rw [← Char.ofNat_toNat c]
    exact h.imp (congrArg Char.ofNat) (congrArg Char.ofNat)
  rcases hc with rfl | rfl <;> decide +kernel

theorem utf8_writeString (s : String) : utf8 (String.ofList (writeString s)) =
    utf8 "\"" ++ s.toList.flatMap (fun c => utf8 (String.ofList (escapeChar c))) ++ utf8 "\"" := by
  rw [writeString, utf8_ofList, List.flatMap_cons, List.flatMap_append, List.flatMap_assoc, List.append_assoc]
  simp only [utf8_ofList]
  rfl

theorem length_flatMap_escapeChar (text : List Char) :
    (text.flatMap (fun c => utf8 (String.ofList (escapeChar c)))).length =
      (text.flatMap rfcEscape).length + 4 * text.countP (fun c => decide (Unabbreviated c)) := by
  induction text with
  | nil => rfl
  | cons c text ih =>
    rw [List.flatMap_cons, List.flatMap_cons, List.length_append, List.length_append, ih, List.countP_cons]
    by_cases h : Unabbreviated c
    · rw [length_escapeChar c h, if_pos (decide_eq_true h)]
      omega
    · rw [escapeChar_eq_rfc c h, if_neg (by simpa using h)]
      omega

/-- A string is written in the form of RFC 8785 exactly when U+0008 and U+000C do not occur in it. -/
theorem string_form_iff (s : String) :
    utf8 (String.ofList (writeString s)) = rfcString s ↔ ∀ c ∈ s.toList, ¬ Unabbreviated c := by
  rw [utf8_writeString, rfcString]
  constructor
  · intro h
    have hlength := congrArg List.length (List.append_cancel_left (List.append_cancel_right h))
    rw [length_flatMap_escapeChar] at hlength
    have hcount : s.toList.countP (fun c => decide (Unabbreviated c)) = 0 := by omega
    simpa using List.countP_eq_zero.mp hcount
  · intro h
    rw [List.flatMap_congr (fun c hc => escapeChar_eq_rfc c (h c hc))]

theorem backspace_unabbreviated :
    utf8 (String.ofList (writeString "\x08")) = utf8 "\"\\u0008\"" ∧ rfcString "\x08" = utf8 "\"\\b\"" ∧
      utf8 (String.ofList (writeString "\x08")) ≠ rfcString "\x08" := by
  decide +kernel

end Strings

end Acdp.Jcs
