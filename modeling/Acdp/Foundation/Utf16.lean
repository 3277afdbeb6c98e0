import Mathlib.Data.Char
import Mathlib.Data.List.Lex
import Mathlib.Order.Basic

namespace Acdp.Foundation.Utf16

def units (c : Char) : List ℕ :=
  if c.toNat < 0x10000 then [c.toNat]
  else [0xD800 + (c.toNat - 0x10000) / 0x400, 0xDC00 + (c.toNat - 0x10000) % 0x400]

def encode (text : List Char) : List ℕ := text.flatMap units

def Crosses (x y : Char) : Prop := 0xE000 ≤ x.toNat ∧ x.toNat < 0x10000 ∧ 0x10000 ≤ y.toNat

instance (x y : Char) : Decidable (Crosses x y) := inferInstanceAs (Decidable (_ ∧ _))

/-- Two texts first differ at a pair of characters that code units order the other way round. -/
def Straddles (a b : List Char) : Prop :=
  ∃ common x y s t, a = common ++ x :: s ∧ b = common ++ y :: t ∧ Crosses x y

theorem encode_cons (c : Char) (text : List Char) : encode (c :: text) = units c ++ encode text := rfl

theorem toNat_scalar (c : Char) : c.toNat < 0xD800 ∨ 0xE000 ≤ c.toNat ∧ c.toNat < 0x110000 := by
  rcases c.valid with h | ⟨h, h'⟩
  · exact .inl h
  · exact .inr ⟨h, h'⟩

theorem toNat_ne (x y : Char) (h : x ≠ y) : x.toNat ≠ y.toNat := fun heq => h (Char.toNat_inj.mp heq)

theorem lt_iff_toNat (x y : Char) : x < y ↔ x.toNat < y.toNat := Iff.rfl

theorem units_append_lt_iff (x y : Char) (h : x ≠ y) (s t : List ℕ) :
    units x ++ s < units y ++ t ↔ (x < y ∧ ¬ Crosses x y) ∨ Crosses y x := by
  have hx := toNat_scalar x
  have hy := toNat_scalar y
  have hne := toNat_ne x y h
  rw [lt_iff_toNat, Crosses, Crosses, units, units]
  split_ifs <;>
    simp only [List.cons_append, List.nil_append, List.cons_lt_cons_iff] <;> omega

theorem straddles_cons_self (c : Char) (a b : List Char) : Straddles (c :: a) (c :: b) ↔ Straddles a b := by
  constructor
  · rintro ⟨common, x, y, s, t, ha, hb, hcross⟩
    cases common with
    | nil =>
      obtain ⟨rfl, rfl⟩ := List.cons.inj ha
      obtain ⟨rfl, rfl⟩ := List.cons.inj hb
      obtain ⟨-, hupper, hlower⟩ := hcross
      omega
    | cons d common => exact ⟨common, x, y, s, t, (List.cons.inj ha).2, (List.cons.inj hb).2, hcross⟩
  · rintro ⟨common, x, y, s, t, rfl, rfl, hcross⟩
    exact ⟨c :: common, x, y, s, t, rfl, rfl, hcross⟩

theorem straddles_cons_ne (x y : Char) (h : x ≠ y) (a b : List Char) :
    Straddles (x :: a) (y :: b) ↔ Crosses x y := by
  constructor
  · rintro ⟨common, x', y', s, t, ha, hb, hcross⟩
    cases common with
    | nil =>
      obtain ⟨rfl, rfl⟩ := List.cons.inj ha
      obtain ⟨rfl, rfl⟩ := List.cons.inj hb
      exact hcross
    | cons d common => exact absurd ((List.cons.inj ha).1.trans (List.cons.inj hb).1.symm) h
  · exact fun hcross => ⟨[], x, y, a, b, rfl, rfl, hcross⟩

theorem not_straddles_nil_left (b : List Char) : ¬ Straddles [] b := by
  rintro ⟨common, x, y, s, t, ha, -⟩
  simp at ha

theorem not_straddles_nil_right (a : List Char) : ¬ Straddles a [] := by
  rintro ⟨common, x, y, s, t, -, hb, -⟩
  simp at hb

theorem append_lt_append_iff (c s t : List ℕ) : c ++ s < c ++ t ↔ s < t := by
  induction c with
  | nil => exact Iff.rfl
  | cons n c ih =>
    rw [List.cons_append, List.cons_append, List.cons_lt_cons_iff, ih]
    simp

theorem encode_lt_iff (a b : List Char) :
    encode a < encode b ↔ (a < b ∧ ¬ Straddles a b) ∨ Straddles b a := by
  induction a generalizing b with
  | nil =>
    have hnil : encode [] < encode b ↔ [] < b := by
      cases b with
      | nil => simp
      | cons y b =>
        rw [encode_cons, units]
        split_ifs <;> simp [encode]
    rw [hnil]
    simp [not_straddles_nil_left, not_straddles_nil_right]
  | cons x a ih =>
    cases b with
    | nil => simp [encode, not_straddles_nil_left, not_straddles_nil_right]
    | cons y b =>
      by_cases h : x = y
      · obtain rfl := h
        rw [straddles_cons_self, straddles_cons_self, List.cons_lt_cons_iff, encode_cons, encode_cons,
          append_lt_append_iff, ih]
        simp
      · rw [straddles_cons_ne x y h, straddles_cons_ne y x (Ne.symm h), encode_cons, encode_cons,
          units_append_lt_iff x y h, List.cons_lt_cons_iff]
        simp [h]

theorem encode_injective (a b : List Char) (h : encode a = encode b) : a = b := by
  have hab := (encode_lt_iff a b).not.mp (by rw [h]; exact lt_irrefl _)
  have hba := (encode_lt_iff b a).not.mp (by rw [h]; exact lt_irrefl _)
  rcases lt_trichotomy a b with hlt | heq | hlt
  · exact absurd (.inl ⟨hlt, fun hs => hba (.inr hs)⟩) hab
  · exact heq
  · exact absurd (.inl ⟨hlt, fun hs => hab (.inr hs)⟩) hba

end Acdp.Foundation.Utf16
