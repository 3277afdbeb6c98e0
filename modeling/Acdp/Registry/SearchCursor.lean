import Acdp.Registry.Search

namespace Acdp.Registry.Search

open Acdp.Types
open Acdp.Registry.Store (Inner ContextTable projectStatus)

theorem parseDigits_toDigits (n : ℕ) : Text.parseDigits (Nat.toDigits 10 n) = some n := by
  have hdigits : (Nat.toDigits 10 n).all Char.isDigit = true := by
    rw [List.all_eq_true]
    intro c hc
    exact Nat.isDigit_of_mem_toDigits (by decide) (by decide) hc
  rw [Text.parseDigits, if_pos ⟨Nat.toDigits_ne_nil, hdigits⟩, Nat.ofDigitChars_ten_toDigits]

theorem parseSigned_toDigits (n : ℕ) : Text.parseSigned (Nat.toDigits 10 n) = some (n : ℤ) := by
  have hunsigned : Text.parseSigned (Nat.toDigits 10 n) =
      (Text.parseDigits (Nat.toDigits 10 n)).map Int.ofNat := by
    rw [Text.parseSigned.eq_def]
    split
    · next cs heq =>
      have hc := Nat.isDigit_of_mem_toDigits (b := 10) (n := n) (c := '-') (by decide) (by decide)
        (by rw [heq]; exact List.mem_cons_self)
      exact absurd hc (by decide)
    · next cs heq =>
      have hc := Nat.isDigit_of_mem_toDigits (b := 10) (n := n) (c := '+') (by decide) (by decide)
        (by rw [heq]; exact List.mem_cons_self)
      exact absurd hc (by decide)
    · rfl
  rw [hunsigned, parseDigits_toDigits, Option.map_some, Int.ofNat_eq_natCast]

theorem parseSigned_toString (n : ℤ) : Text.parseSigned (toString n).toList = some n := by
  rw [Int.toString_eq_repr, Int.repr_eq_if]
  split_ifs with hn
  · rw [Nat.toList_repr, parseSigned_toDigits, Int.toNat_of_nonneg hn]
  · rw [String.toList_append, Nat.toList_repr]
    change (Text.parseDigits (Nat.toDigits 10 (-n).toNat)).map (-Int.ofNat ·) = some n
    rw [parseDigits_toDigits, Option.map_some, Int.ofNat_eq_natCast, Int.toNat_of_nonneg (by omega), neg_neg]

theorem parseI64_toString (n : ℤ) (hlow : -2 ^ 63 ≤ n) (hhigh : n < 2 ^ 63) :
    Text.parseI64 (toString n) = some n := by
  rw [Text.parseI64, parseSigned_toString, Option.filter_some, if_pos (decide_eq_true ⟨hlow, hhigh⟩)]

theorem toString_no_colon (n : ℤ) : ':' ∉ (toString n).toList := by
  have hdigits : ∀ m : ℕ, ':' ∉ Nat.toDigits 10 m := by
    intro m hm
    exact absurd (Nat.isDigit_of_mem_toDigits (by decide) (by decide) hm) (by decide)
  rw [Int.toString_eq_repr, Int.repr_eq_if]
  split_ifs
  · rw [Nat.toList_repr]
    exact hdigits _
  · rw [String.toList_append, Nat.toList_repr, List.mem_append, not_or]
    exact ⟨by decide, hdigits _⟩

theorem splitOnceChar_append (c : Char) (head tail : String) (h : c ∉ head.toList) :
    Text.splitOnceChar c (head ++ (String.singleton c ++ tail)) = some (head, tail) := by
  have hdrop : (head ++ (String.singleton c ++ tail)).toList.dropWhile (· ≠ c) = c :: tail.toList := by
    rw [String.toList_append, String.toList_append, List.dropWhile_append_of_pos]
    · simp
    · intro d hd
      have hne : d ≠ c := by
        rintro rfl
        exact h hd
      simpa using hne
  have htake : (head ++ (String.singleton c ++ tail)).toList.takeWhile (· ≠ c) = head.toList := by
    rw [String.toList_append, String.toList_append, List.takeWhile_append_of_pos]
    · simp
    · intro d hd
      have hne : d ≠ c := by
        rintro rfl
        exact h hd
      simpa using hne
  rw [Text.splitOnceChar, hdrop, htake]
  simp [String.ofList_toList]

theorem fromUTF8?_toByteArray (s : String) : String.fromUTF8? s.toByteArray = some s := by
  simp [String.fromUTF8?, s.isValidUTF8, String.fromUTF8]

theorem saturatingSub_self (a : ℤ) : saturatingSub a a = 0 := by
  rw [saturatingSub, sub_self]
  decide

theorem timestampMillis_bounds (t : DateTime) :
    -2 ^ 63 ≤ t.timestampMillis ∧ t.timestampMillis < 2 ^ 63 := by
  have hl := t.lower
  have hu := t.upper
  rw [DateTime.timestampMillis]
  omega

theorem decodeCursor_encodeCursor (env : SearchEnv)
    (hbase64 : ∀ bytes, env.base64Decode (env.base64Encode bytes) = some bytes) (createdAt now : DateTime)
    (ctxId : String) :
    decodeCursor env (encodeCursor env createdAt.timestampMillis ctxId now) now =
      .ok (some (createdAt.timestampMillis, ctxId)) := by
  have htext : s!"{now.timestampMillis}:{createdAt.timestampMillis}:{ctxId}" =
      toString now.timestampMillis ++ (String.singleton ':' ++
        (toString createdAt.timestampMillis ++ (String.singleton ':' ++ ctxId))) := by
    simp only [String.append_assoc]
    rfl
  obtain ⟨hnlow, hnhigh⟩ := timestampMillis_bounds now
  obtain ⟨hclow, hchigh⟩ := timestampMillis_bounds createdAt
  have hage : ¬ cursorTtlMillis < saturatingSub now.timestampMillis now.timestampMillis := by
    rw [saturatingSub_self]
    decide
  rw [decodeCursor, encodeCursor, hbase64]
  dsimp only
  rw [fromUTF8?_toByteArray]
  dsimp only
  rw [htext, splitOnceChar_append ':' _ _ (toString_no_colon _)]
  dsimp only
  rw [splitOnceChar_append ':' _ _ (toString_no_colon _)]
  dsimp only
  rw [parseI64_toString _ hnlow hnhigh]
  dsimp only
  rw [parseI64_toString _ hclow hchigh]
  exact if_neg hage

end Acdp.Registry.Search
