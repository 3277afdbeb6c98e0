import Acdp.Crypto.Merkle
import Acdp.Types.Primitives

namespace Acdp.Crypto

open Acdp.Types
open Acdp.Crypto.Merkle (Digest)

def utf8 (s : String) : List UInt8 := s.toByteArray.data.toList

def hexByte (b : UInt8) : List Char :=
  [Nat.digitChar (b.toNat / 16), Nat.digitChar (b.toNat % 16)]

def hexEncode (d : Digest) : String := String.ofList (d.toList.flatMap hexByte)

theorem digitChar_injective_of_lt :
    ∀ m < 16, ∀ n < 16, Nat.digitChar m = Nat.digitChar n → m = n := by decide

theorem hexByte_injective : Function.Injective hexByte := by
  intro a b h
  have hlt : a.toNat < 256 ∧ b.toNat < 256 := ⟨a.toNat_lt, b.toNat_lt⟩
  simp only [hexByte, List.cons.injEq, and_true] at h
  have hhigh := digitChar_injective_of_lt _ (by omega) _ (by omega) h.1
  have hlow := digitChar_injective_of_lt _ (by omega) _ (by omega) h.2
  exact UInt8.toNat_inj.mp (by omega)

theorem flatMap_hexByte_injective : Function.Injective (List.flatMap hexByte) := by
  intro as
  induction as with
  | nil =>
    intro bs h
    cases bs with
    | nil => rfl
    | cons b bs => simp [hexByte] at h
  | cons a as ih =>
    intro bs h
    cases bs with
    | nil => simp [hexByte] at h
    | cons b bs =>
      rw [List.flatMap_cons, List.flatMap_cons] at h
      obtain ⟨hhead, htail⟩ := List.append_inj h rfl
      rw [hexByte_injective hhead, ih htail]

theorem hexEncode_injective : Function.Injective hexEncode := by
  intro a b h
  have hl : a.toList.flatMap hexByte = b.toList.flatMap hexByte := by
    have hc := congrArg String.toList h
    simpa [hexEncode] using hc
  exact Vector.toList_inj.mp (flatMap_hexByte_injective hl)

def deriveLineageId (sha256 : List UInt8 → Digest) (firstCtxId : CtxId) : LineageId :=
  "lin:sha256:" ++ hexEncode (sha256 (utf8 firstCtxId))

theorem deriveLineageId_eq_iff (sha256 : List UInt8 → Digest) (a b : CtxId) :
    deriveLineageId sha256 a = deriveLineageId sha256 b ↔ sha256 (utf8 a) = sha256 (utf8 b) := by
  constructor
  · intro h
    have hc := congrArg String.toList h
    simp only [deriveLineageId, String.toList_append, List.append_cancel_left_eq] at hc
    exact hexEncode_injective (String.toList_inj.mp hc)
  · intro h
    rw [deriveLineageId, deriveLineageId, h]

end Acdp.Crypto
