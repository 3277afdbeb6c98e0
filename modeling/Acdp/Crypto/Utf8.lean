import Acdp.Crypto.Hash
import Mathlib.Data.String.Basic

namespace Acdp.Crypto

theorem utf8_append (a b : String) : utf8 (a ++ b) = utf8 a ++ utf8 b := by
  rw [utf8, String.toByteArray_append]
  simp [utf8]

theorem utf8_singleton (c : Char) (h : c.toNat < 128) : utf8 (String.singleton c) = [c.toNat.toUInt8] := by
  have hsize : c.utf8Size = 1 := by
    rw [Char.utf8Size_eq_one_iff]
    exact UInt32.le_iff_toNat_le.mpr (by simpa using Nat.le_of_lt_succ h)
  rw [utf8]
  simp [String.utf8EncodeChar_eq_singleton hsize, List.utf8Encode_singleton]
  rfl

theorem utf8_ofList_ascii (l : List Char) (h : ∀ c ∈ l, c.toNat < 128) :
    utf8 (String.ofList l) = l.map (fun c => c.toNat.toUInt8) := by
  induction l with
  | nil => rfl
  | cons c l ih =>
    rw [List.forall_mem_cons] at h
    have hcons : String.ofList (c :: l) = String.singleton c ++ String.ofList l := by
      rw [← String.toList_inj]
      simp
    rw [hcons, utf8_append, utf8_singleton c h.1, ih h.2]
    rfl

theorem utf8_ofList (l : List Char) : utf8 (String.ofList l) =
    l.flatMap (fun c => utf8 (String.singleton c)) := by
  induction l with
  | nil => rfl
  | cons c l ih =>
    have hcons : String.ofList (c :: l) = String.singleton c ++ String.ofList l := by
      rw [← String.toList_inj]
      simp
    rw [hcons, utf8_append, ih, List.flatMap_cons]

end Acdp.Crypto
