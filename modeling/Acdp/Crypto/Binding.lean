import Acdp.Crypto.Hash
import Acdp.Foundation.Entries
import Acdp.Jcs.Injective
import Acdp.Types.Members

namespace Acdp.Crypto

open Acdp.Types
open Acdp.Foundation.Entries (bind_ok)
open Acdp.Jcs (FloatFormat NumberValid SameNumber tryCanonicalizeValue tryCanonicalizeValue_ok
  tryCanonicalizeValue_deep render_eq_iff utf8_inj)
open Acdp.Types.Json (Valid Same)

def NoCollision (env : Env) (as bs : List (String × Json)) : Prop :=
  ∀ bytes bytes', env.canonicalize (.obj as) = .ok bytes → env.canonicalize (.obj bs) = .ok bytes' →
    env.sha256 bytes = env.sha256 bytes' → bytes = bytes'

theorem hashOfMembers_ok (env : Env) (members : List (String × Json)) (hash : ContentHash)
    (h : hashOfMembers env members = .ok hash) :
    ∃ bytes, env.canonicalize (.obj members) = .ok bytes ∧ encodeSha256Hex (env.sha256 bytes) = hash := by
  obtain ⟨bytes, hbytes, hok⟩ := bind_ok _ _ _ h
  exact ⟨bytes, hbytes, Except.ok.inj hok⟩

theorem tryCanonicalizeValue_same (fmt : FloatFormat) (a b : Json) (ha : Valid NumberValid a)
    (hb : Valid NumberValid b) (bytes : List UInt8) (hbytes : tryCanonicalizeValue fmt a = .ok bytes)
    (hbytes' : tryCanonicalizeValue fmt b = .ok bytes) : Same (SameNumber fmt) a b := by
  have hshallow : ∀ v, tryCanonicalizeValue fmt v = .ok bytes → v.depth ≤ 256 := by
    intro v hv
    by_contra hdeep
    rw [tryCanonicalizeValue_deep fmt v (by omega)] at hv
    cases hv
  have htext := hbytes.trans hbytes'.symm
  rw [tryCanonicalizeValue_ok fmt a (hshallow a hbytes), tryCanonicalizeValue_ok fmt b (hshallow b hbytes'),
    Except.ok.injEq, utf8_inj, String.ofList_inj, render_eq_iff fmt a b ha hb] at htext
  exact htext

theorem encodeSha256Hex_injective : Function.Injective encodeSha256Hex := by
  intro a b h
  have hc := congrArg String.toList h
  simp only [encodeSha256Hex, String.toList_append, List.append_cancel_left_eq] at hc
  exact hexEncode_injective (String.toList_inj.mp hc)

theorem same_of_hashOfMembers (env : Env) (fmt : FloatFormat)
    (hjcs : env.canonicalize = tryCanonicalizeValue fmt) (as bs : List (String × Json))
    (ha : Valid NumberValid (.obj as)) (hb : Valid NumberValid (.obj bs))
    (hsha : NoCollision env as bs) (hash : ContentHash) (has : hashOfMembers env as = .ok hash)
    (hbs : hashOfMembers env bs = .ok hash) : Same (SameNumber fmt) (.obj as) (.obj bs) := by
  obtain ⟨bytes, hbytes, hdigest⟩ := hashOfMembers_ok env as hash has
  obtain ⟨bytes', hbytes', hdigest'⟩ := hashOfMembers_ok env bs hash hbs
  have heq := hsha bytes bytes' hbytes hbytes' (encodeSha256Hex_injective (hdigest.trans hdigest'.symm))
  subst heq
  rw [hjcs] at hbytes hbytes'
  exact tryCanonicalizeValue_same fmt _ _ ha hb bytes hbytes hbytes'

end Acdp.Crypto
