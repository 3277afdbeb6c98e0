import Mathlib.Data.Nat.Bitwise

namespace Acdp.Foundation

/-- A CIDR block of `width`-bit addresses: the addresses that agree with `base` on their first `len` bits. -/
structure AddressBlock (width : ℕ) where
  base : ℕ
  len : ℕ
deriving DecidableEq, Repr

namespace AddressBlock

def contains {width : ℕ} (block : AddressBlock width) (n : ℕ) : Prop :=
  n / 2 ^ (width - block.len) = block.base / 2 ^ (width - block.len)

instance {width : ℕ} (block : AddressBlock width) (n : ℕ) : Decidable (block.contains n) :=
  inferInstanceAs (Decidable (_ = _))

def embed {width : ℕ} (wide high : ℕ) (block : AddressBlock width) : AddressBlock wide where
  base := high * 2 ^ width + block.base
  len := wide - width + block.len

theorem land_high_mask (n w k : ℕ) (hk : k ≤ w) (hn : n < 2 ^ w) :
    n &&& (2 ^ (w - k) - 1) * 2 ^ k = n / 2 ^ k * 2 ^ k := by
  apply Nat.eq_of_testBit_eq
  intro i
  rw [Nat.testBit_and, Nat.testBit_mul_two_pow, Nat.testBit_mul_two_pow, Nat.testBit_div_two_pow,
    Nat.testBit_two_pow_sub_one]
  by_cases hi : k ≤ i
  · by_cases hw : i < w
    · have hlt : i - k < w - k := by omega
      simp [hi, hlt, Nat.sub_add_cancel hi]
    · have hbit : n.testBit i = false :=
        Nat.testBit_lt_two_pow (hn.trans_le (Nat.pow_le_pow_right (by decide) (by omega)))
      simp [hi, Nat.sub_add_cancel hi, hbit]
  · simp [hi]

theorem embed_contains {width wide : ℕ} (block : AddressBlock width) (high m n : ℕ)
    (hlen : block.len ≤ width) (hwide : width ≤ wide) (hbase : block.base < 2 ^ width)
    (hn : n < 2 ^ width) :
    (block.embed wide high).contains (m * 2 ^ width + n) ↔ m = high ∧ block.contains n := by
  have hshift : wide - (wide - width + block.len) = width - block.len := by omega
  have hsplit : 2 ^ width = 2 ^ block.len * 2 ^ (width - block.len) := by
    rw [← Nat.pow_add, Nat.add_sub_cancel' hlen]
  have hpos : 0 < 2 ^ (width - block.len) := Nat.two_pow_pos _
  have hdiv : ∀ a b : ℕ, (a * 2 ^ width + b) / 2 ^ (width - block.len) =
      a * 2 ^ block.len + b / 2 ^ (width - block.len) := by
    intro a b
    rw [hsplit, ← Nat.mul_assoc, Nat.add_comm, Nat.add_mul_div_right _ _ hpos, Nat.add_comm]
  have hlow : ∀ b < 2 ^ width, b / 2 ^ (width - block.len) < 2 ^ block.len := by
    intro b hb
    rw [Nat.div_lt_iff_lt_mul hpos, ← hsplit]
    exact hb
  simp only [contains, embed, hshift, hdiv]
  constructor
  · intro h
    have hm := congrArg (· / 2 ^ block.len) h
    have hr := congrArg (· % 2 ^ block.len) h
    simp only [Nat.add_comm (_ * 2 ^ block.len), Nat.add_mul_div_right _ _ (Nat.two_pow_pos _),
      Nat.div_eq_of_lt (hlow _ hn), Nat.div_eq_of_lt (hlow _ hbase), Nat.zero_add] at hm
    simp only [Nat.mul_add_mod_of_lt (hlow _ hn), Nat.mul_add_mod_of_lt (hlow _ hbase)] at hr
    exact ⟨hm, hr⟩
  · rintro ⟨rfl, h⟩
    rw [h]

end AddressBlock

end Acdp.Foundation
