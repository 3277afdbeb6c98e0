import Acdp.Crypto.Envelope
import Acdp.Types.TextParts

namespace Acdp.Types

theorem Text.afterLastChar_append (c : Char) (head tail : String) (h : c ∉ tail.toList) :
    Text.afterLastChar c (head ++ String.singleton c ++ tail) = some tail := by
  have hlist : (head ++ String.singleton c ++ tail).toList = head.toList ++ c :: tail.toList := by simp
  rw [Text.afterLastChar, hlist, if_pos (by simp)]
  have htail : ∀ d ∈ tail.toList.reverse, decide (d ≠ c) = true := by
    intro d hd
    rw [decide_eq_true_eq]
    rintro rfl
    exact h (List.mem_reverse.mp hd)
  rw [List.reverse_append, List.reverse_cons, List.append_assoc, List.takeWhile_append_of_pos htail]
  simp

theorem Text.exists_split_last (c : Char) (s : String) (h : c ∈ s.toList) :
    ∃ head tail, s = head ++ String.singleton c ++ tail ∧ c ∉ tail.toList := by
  obtain ⟨before, after, hsplit, hbefore⟩ := List.eq_append_cons_of_mem (List.mem_reverse.mpr h)
  refine ⟨String.ofList after.reverse, String.ofList before.reverse, ?_, by simpa using hbefore⟩
  rw [← String.toList_inj, ← List.reverse_reverse s.toList, hsplit]
  simp

namespace DidDocument

variable (doc : DidDocument) (f : String)

def keyUrl : String := doc.id ++ "#" ++ f

def methodUrls : List String := doc.verificationMethods.map (fun m => doc.absolutize m.id)

def assertionUrls : List String := doc.assertionMethod.map (fun r => doc.absolutize r.target)

theorem isAssertionMethod_iff (vmId : String) :
    doc.isAssertionMethod vmId = true ↔ doc.absolutize vmId ∈ doc.assertionUrls := by
  simp only [isAssertionMethod, assertionUrls, List.any_eq_true, List.mem_map, beq_iff_eq]

theorem absolutize_eq_append (id : String) :
    ∃ base, doc.absolutize id = base ++ id ∧ (base = "" ∨ '#' ∈ id.toList) := by
  unfold absolutize
  split
  next frag hstrip =>
    have hid : id = "#" ++ frag := (Text.stripPrefix_eq_some_iff _ _ _).mp hstrip
    exact ⟨doc.id, by rw [hid, String.append_assoc], .inr (by simp [hid])⟩
  next => exact ⟨"", String.empty_append.symm, .inl rfl⟩

variable {f}

theorem fragmentOf_eq_some_iff (hsep : '#' ∉ f.toList) (id : String) :
    fragmentOf id = some f ↔ ∃ o, doc.absolutize id = o ++ "#" ++ f := by
  obtain ⟨base, habs, hbase⟩ := doc.absolutize_eq_append id
  by_cases hmem : '#' ∈ id.toList
  · obtain ⟨head, tail, hid, htail⟩ := Text.exists_split_last '#' id hmem
    have hurl : doc.absolutize id = (base ++ head) ++ "#" ++ tail := by
      rw [habs, hid, String.append_assoc, String.append_assoc, String.append_assoc]
      rfl
    have hfragment : fragmentOf id = some tail := hid ▸ Text.afterLastChar_append '#' head tail htail
    rw [hfragment, hurl]
    constructor
    · intro h
      obtain rfl := Option.some.inj h
      exact ⟨_, rfl⟩
    · rintro ⟨o, ho⟩
      have hlast := Text.afterLastChar_append '#' o f hsep
      rw [← hlast, ← Text.afterLastChar_append '#' (base ++ head) tail htail]
      exact congrArg _ ho
  · obtain rfl := hbase.resolve_right hmem
    rw [fragmentOf, Text.afterLastChar, if_neg hmem, habs, String.empty_append]
    refine iff_of_false (by simp) ?_
    rintro ⟨o, rfl⟩
    simp at hmem

theorem findByFragment_eq_some_iff (hkeyless : Text.hasPrefix keylessFragmentPrefix f = false)
    (hsep : '#' ∉ f.toList) (m : VerificationMethod) :
    doc.findByFragment f = some m ↔ ∃ before after, doc.verificationMethods = before ++ m :: after ∧
      (∃ o, doc.absolutize m.id = o ++ "#" ++ f) ∧
      ∀ b ∈ before, ∀ u, doc.absolutize b.id ≠ u ++ "#" ++ f := by
  rw [findByFragment, if_neg (by rw [hkeyless]; decide), List.find?_eq_some_iff_append]
  simp only [beq_iff_eq, Bool.not_eq_true', beq_eq_false_iff_ne, ne_eq,
    doc.fragmentOf_eq_some_iff hsep, not_exists]
  constructor
  · rintro ⟨hm, before, after, hlist, hbefore⟩
    exact ⟨before, after, hlist, hm, hbefore⟩
  · rintro ⟨before, after, hlist, hm, hbefore⟩
    exact ⟨hm, before, after, hlist, hbefore⟩

theorem exists_findByFragment (hkeyless : Text.hasPrefix keylessFragmentPrefix f = false)
    (hsep : '#' ∉ f.toList) (h : doc.keyUrl f ∈ doc.methodUrls) : ∃ m, doc.findByFragment f = some m := by
  obtain ⟨m, hm, habs⟩ := List.mem_map.mp h
  have hfragment := (doc.fragmentOf_eq_some_iff hsep m.id).mpr ⟨doc.id, habs⟩
  rw [findByFragment, if_neg (by rw [hkeyless]; decide), ← Option.isSome_iff_exists, List.find?_isSome]
  exact ⟨m, hm, by simp [hfragment]⟩

end DidDocument

end Acdp.Types

namespace Acdp.Crypto

open Acdp.Types

/-- Steps 4 and 5 pass exactly when the document lists the key that `key_id` names and lets that key sign. -/
structure ExactLookup (doc : DidDocument) (f : String) : Prop where
  sound : ∀ m, doc.findByFragment f = some m → doc.isAssertionMethod m.id = true →
    doc.absolutize m.id = doc.keyUrl f ∧ doc.keyUrl f ∈ doc.assertionUrls
  complete : doc.keyUrl f ∈ doc.methodUrls → doc.keyUrl f ∈ doc.assertionUrls → acceptsFragment f doc = true

/-- Where a method `o#f` of another DID is listed ahead of every method with that fragment, it is no assertion
method, and hides none of the key ids `d#f`. -/
def Unshadowed (d f : String) (methodUrls assertionUrls : List String) : Prop :=
  ∀ o before after, methodUrls = before ++ (o ++ "#" ++ f) :: after → o ≠ d →
    (∀ u, u ++ "#" ++ f ∉ before) →
    o ++ "#" ++ f ∉ assertionUrls ∧ (d ++ "#" ++ f ∈ assertionUrls → d ++ "#" ++ f ∉ after)

theorem append_fragment_inj (o d f : String) (h : o ++ "#" ++ f = d ++ "#" ++ f) : o = d := by
  rw [← String.toList_inj] at h ⊢
  simpa using h

/-- The lookup is exact as long as no method of another DID stands in for the key or before it. -/
theorem key_lookup_exact_iff (doc : DidDocument) (f : String) (hsep : '#' ∉ f.toList)
    (hkeyless : Text.hasPrefix keylessFragmentPrefix f = false) :
    ExactLookup doc f ↔ Unshadowed doc.id f doc.methodUrls doc.assertionUrls := by
  have hfind (m : VerificationMethod) := doc.findByFragment_eq_some_iff hkeyless hsep m
  constructor
  · rintro ⟨hsound, hcomplete⟩ o before after hlist hother hfirst
    obtain ⟨before, rest, hmethods, rfl, hrest⟩ := List.map_eq_append_iff.mp hlist
    obtain ⟨m, after, rfl, hurl, rfl⟩ := List.map_eq_cons_iff.mp hrest
    have hm : doc.findByFragment f = some m := by
      refine (hfind m).mpr ⟨before, after, hmethods, ⟨o, hurl⟩, fun b hb u hu => hfirst u ?_⟩
      exact hu ▸ List.mem_map_of_mem hb
    have hnot : o ++ "#" ++ f ∉ doc.assertionUrls := by
      intro hmem
      rw [← hurl, ← doc.isAssertionMethod_iff] at hmem
      have hown := (hsound m hm hmem).1
      rw [hurl] at hown
      exact hother (append_fragment_inj o doc.id f hown)
    refine ⟨hnot, fun hrefers hlater => hnot ?_⟩
    have hlists : doc.keyUrl f ∈ doc.methodUrls := by
      rw [hlist]
      exact List.mem_append_right _ (List.mem_cons_of_mem _ hlater)
    have haccepts := hcomplete hlists hrefers
    rw [acceptsFragment, hm, Option.any_some, doc.isAssertionMethod_iff, hurl] at haccepts
    exact haccepts
  · intro hcondition
    have hselected (m : VerificationMethod) (hm : doc.findByFragment f = some m) :
        doc.absolutize m.id = doc.keyUrl f ∨ doc.absolutize m.id ∉ doc.assertionUrls ∧
          (doc.keyUrl f ∈ doc.assertionUrls → doc.keyUrl f ∉ doc.methodUrls) := by
      obtain ⟨before, after, hmethods, ⟨o, hurl⟩, hbefore⟩ := (hfind m).mp hm
      by_cases hown : o = doc.id
      · rw [hown] at hurl
        exact .inl hurl
      · have hurls : doc.methodUrls = before.map (fun m => doc.absolutize m.id) ++ (o ++ "#" ++ f) ::
            after.map (fun m => doc.absolutize m.id) := by
          rw [DidDocument.methodUrls, hmethods, List.map_append, List.map_cons, hurl]
        have hfirst (u : String) : u ++ "#" ++ f ∉ before.map (fun m => doc.absolutize m.id) := by
          intro hmem
          obtain ⟨b, hb, hu⟩ := List.mem_map.mp hmem
          exact hbefore b hb u hu
        obtain ⟨hnot, hhidden⟩ := hcondition o _ _ hurls hown hfirst
        refine .inr ⟨hurl ▸ hnot, fun hrefers hlists => ?_⟩
        rw [hurls, List.mem_append, List.mem_cons] at hlists
        rcases hlists with hmem | hmem | hmem
        · exact hfirst doc.id hmem
        · exact hown (append_fragment_inj o doc.id f hmem.symm)
        · exact hhidden hrefers hmem
    constructor
    · intro m hm hassertion
      rw [doc.isAssertionMethod_iff] at hassertion
      obtain hown | ⟨hnot, -⟩ := hselected m hm
      · exact ⟨hown, hown ▸ hassertion⟩
      · exact absurd hassertion hnot
    · intro hlists hrefers
      obtain ⟨m, hm⟩ := doc.exists_findByFragment hkeyless hsep hlists
      obtain hown | ⟨-, hhidden⟩ := hselected m hm
      · rw [acceptsFragment, hm, Option.any_some, doc.isAssertionMethod_iff, hown]
        exact hrefers
      · exact absurd hlists (hhidden hrefers)

section Sample

def listedMethod (id : String) : VerificationMethod where
  id := id
  methodType := "Ed25519VerificationKey2020"
  controller := "did:web:example.com"
  publicKeyJwk := none
  publicKeyMultibase := some "z6MkhaXgBZDvotDkL5257faiztiGiC2QtKLGpbnnEGta2doK"

def ownDocument : DidDocument where
  id := "did:web:example.com"
  verificationMethods := [listedMethod "#key-1", listedMethod "did:web:backup.example#key-1"]
  assertionMethod := [.id "did:web:backup.example#key-1", .id "did:web:example.com#key-1"]
  services := []

theorem own_lookup_exact : ExactLookup ownDocument "key-1" := by
  refine (key_lookup_exact_iff ownDocument "key-1" (by decide) (by decide)).mpr ?_
  intro o before after hlist hother hfirst
  have hurls : ownDocument.methodUrls =
      ["did:web:example.com" ++ "#" ++ "key-1", "did:web:backup.example" ++ "#" ++ "key-1"] := by decide
  rw [hurls] at hlist
  cases before with
  | nil => exact absurd (append_fragment_inj _ _ _ (List.cons.inj hlist).1.symm) hother
  | cons first before =>
    refine absurd ?_ (hfirst "did:web:example.com")
    rw [(List.cons.inj hlist).1]
    exact List.mem_cons_self

def borrowingDocument : DidDocument where
  id := "did:web:example.com"
  verificationMethods := [listedMethod "did:web:attacker.com#key-1"]
  assertionMethod := [.id "did:web:attacker.com#key-1"]
  services := []

theorem borrowed_key_accepted :
    acceptsFragment "key-1" borrowingDocument = true ∧
      borrowingDocument.keyUrl "key-1" ∉ borrowingDocument.methodUrls ∧
      ¬ ExactLookup borrowingDocument "key-1" := by
  refine ⟨by decide, by decide, fun hexact => ?_⟩
  exact absurd (hexact.sound _ rfl (by decide)).1 (by decide)

end Sample

end Acdp.Crypto
