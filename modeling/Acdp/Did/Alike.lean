import Acdp.Did.Read
import Acdp.Types.Members

namespace Acdp.Types

open Acdp.Crypto
open Acdp.Foundation.Related

section Method

variable (env : Env) {m m' : VerificationMethod} (h : m.Alike m')

theorem jwkStr_eq (jwk jwk' : Json) (h : Json.Alike jwk jwk') (key : String) :
    jwkStr jwk key = jwkStr jwk' key :=
  bind_eq_of_rel _ _ _ _ (h.get key) (fun _ _ hvw => hvw.asStr)

theorem extractFromJwk_eq (jwk jwk' : Json) (h : Json.Alike jwk jwk') :
    extractFromJwk env jwk = extractFromJwk env jwk' := by
  unfold extractFromJwk
  rw [jwkStr_eq jwk jwk' h, jwkStr_eq jwk jwk' h, jwkStr_eq jwk jwk' h]

theorem extractP256FromJwk_eq (jwk jwk' : Json) (h : Json.Alike jwk jwk') :
    extractP256FromJwk env jwk = extractP256FromJwk env jwk' := by
  unfold extractP256FromJwk
  simp only [jwkStr_eq jwk jwk' h]

include h

theorem VerificationMethod.Alike.ed25519 : m.ed25519PublicKeyBytes env = m'.ed25519PublicKeyBytes env := by
  obtain ⟨-, -, -, hjwk, hmultibase⟩ := h
  unfold VerificationMethod.ed25519PublicKeyBytes
  rw [hmultibase]
  revert hjwk
  generalize m.publicKeyJwk = x
  generalize m'.publicKeyJwk = y
  intro hjwk
  cases hjwk with
  | none => rfl
  | some hvw => exact extractFromJwk_eq env _ _ hvw

theorem VerificationMethod.Alike.ecdsaP256 : m.ecdsaP256PublicKeySec1 env =
    m'.ecdsaP256PublicKeySec1 env := by
  obtain ⟨-, -, -, hjwk, -⟩ := h
  unfold VerificationMethod.ecdsaP256PublicKeySec1
  revert hjwk
  generalize m.publicKeyJwk = x
  generalize m'.publicKeyJwk = y
  intro hjwk
  cases hjwk with
  | none => rfl
  | some hvw => exact extractP256FromJwk_eq env _ _ hvw

theorem VerificationMethod.Alike.declaredAlgorithm : m.declaredAlgorithm env = m'.declaredAlgorithm env := by
  obtain ⟨-, htype, -, hjwk, hmultibase⟩ := h
  unfold VerificationMethod.declaredAlgorithm
  rw [htype, hmultibase]
  revert hjwk
  generalize m.publicKeyJwk = x
  generalize m'.publicKeyJwk = y
  intro hjwk
  cases hjwk with
  | none => rfl
  | some hvw => simp only [Option.bind_eq_bind, Option.bind_some, jwkStr_eq _ _ hvw]

theorem VerificationMethod.Alike.fingerprint (algorithm : String) :
    fingerprintVerificationMethod env m algorithm = fingerprintVerificationMethod env m' algorithm := by
  unfold fingerprintVerificationMethod
  rw [h.ed25519 env, h.ecdsaP256 env]

theorem VerificationMethod.Alike.verify (signature : Signature) (hash : ContentHash) :
    verifySignatureWithMethod env m signature hash = verifySignatureWithMethod env m' signature hash := by
  unfold verifySignatureWithMethod verifySignatureByAlgorithm
  rw [h.declaredAlgorithm env, h.ed25519 env, h.ecdsaP256 env]

end Method

section Document

variable {doc doc' : DidDocument} (h : doc.Alike doc')
include h

theorem DidDocument.Alike.findByFragment (fragment : String) :
    Option.Rel VerificationMethod.Alike (doc.findByFragment fragment) (doc'.findByFragment fragment) := by
  unfold DidDocument.findByFragment
  split
  · exact .none
  · exact find?_rel _ _ _ _ h.methods (fun m m' hm => by rw [hm.id])

theorem DidDocument.Alike.isAssertionMethod (vmId : String) :
    doc.isAssertionMethod vmId = doc'.isAssertionMethod vmId := by
  have habs (url : String) : doc.absolutize url = doc'.absolutize url := by
    rw [DidDocument.absolutize, DidDocument.absolutize, h.id]
  have hmap (d : DidDocument) : d.isAssertionMethod vmId =
      (d.assertionMethod.map AssertionMethodRef.target).any (fun url => d.absolutize url ==
      d.absolutize vmId) := by
    rw [DidDocument.isAssertionMethod, List.any_map]
    rfl
  rw [hmap, hmap, h.assertions]
  simp only [habs]

end Document

section Listed

variable (env : Env) (hserde : DocumentSerde env)

theorem alike_removeKeys (keys : List String) (as bs : List (String × Json))
    (h : Json.Alike (.obj as) (.obj bs)) : Json.Alike (.obj (removeKeys keys as))
    (.obj (removeKeys keys bs)) := by
  rcases h with h | ⟨ha, hb, h⟩
  · cases h
    exact .refl _
  · exact Or.inr ⟨valid_removeKeys _ keys ha, valid_removeKeys _ keys hb,
      same_removeKeys _ _ keys as bs ha hb h⟩

theorem mem_keys_of_lookupAlike (as bs : List (String × Json)) (h : LookupAlike as bs) (k : String) :
    k ∈ as.map Prod.fst ↔ k ∈ bs.map Prod.fst := by
  have hk := h k
  rw [← not_iff_not, ← Json.lookup_eq_none_iff_not_mem, ← Json.lookup_eq_none_iff_not_mem]
  cases hv : as.lookup k with
  | none =>
    rw [hv] at hk
    cases hw : bs.lookup k with
    | none => simp
    | some w =>
      rw [hw] at hk
      cases hk
  | some v =>
    rw [hv] at hk
    cases hw : bs.lookup k with
    | none =>
      rw [hw] at hk
      cases hk
    | some w => simp

theorem all_keys_eq (as bs : List (String × Json)) (h : LookupAlike as bs) (names : List String) :
    as.all (fun m => decide (m.1 ∈ names)) = bs.all (fun m => decide (m.1 ∈ names)) := by
  have hiff (l : List (String × Json)) :
      l.all (fun m => decide (m.1 ∈ names)) = true ↔ ∀ k ∈ l.map Prod.fst, k ∈ names := by
    simp
  rw [Bool.eq_iff_iff, hiff, hiff]
  simp only [mem_keys_of_lookupAlike as bs h]

theorem WorkloadIdentity.read_eq (as bs : List (String × Json)) (h : LookupAlike as bs) :
    WorkloadIdentity.read as = WorkloadIdentity.read bs := by
  unfold WorkloadIdentity.read
  rw [strField_eq h, strField_eq h, strField_eq h, all_keys_eq as bs h, all_keys_eq as bs h]

include hserde

theorem identityDeserialize_eq (as bs : List (String × Json)) (h : LookupAlike as bs) :
    (env.identityDeserialize (.obj as)).toOption = (env.identityDeserialize (.obj bs)).toOption := by
  refine Option.ext fun identity => ?_
  have hiff (members : List (String × Json)) : (env.identityDeserialize (.obj members)).toOption =
    some identity ↔ WorkloadIdentity.read members = some identity := by
    rw [← hserde.identity]
    cases env.identityDeserialize (.obj members) <;> simp [Except.toOption]
  rw [hiff, hiff, WorkloadIdentity.read_eq as bs h]

theorem listedEntry_eq (v w : Json) (h : Json.Alike v w) : listedEntry env v = listedEntry env w := by
  refine bind_eq_of_rel _ _ _ _ h.asObject (fun as bs hmembers => ?_)
  have hlookup := Json.Alike.lookup as bs hmembers "org_wide"
  have hremoved : LookupAlike (removeKeys ["org_wide"] as) (removeKeys ["org_wide"] bs) :=
    fun k => Json.Alike.lookup _ _ (alike_removeKeys _ as bs hmembers) k
  rw [identityDeserialize_eq env hserde _ _ hremoved]
  revert hlookup
  generalize as.lookup "org_wide" = x
  generalize bs.lookup "org_wide" = y
  intro hlookup
  cases hlookup with
  | none => rfl
  | some hvw =>
    dsimp only
    rw [hvw.asBool]

theorem DidDocument.Alike.listedIdentities {doc doc' : DidDocument} (h : doc.Alike doc') :
    listedIdentities env doc = listedIdentities env doc' := by
  have hfilter := filter_rel _ _ (fun s : Json => (s.get "type").bind Json.asStr == some keylessServiceType) _
    h.services (fun v w hvw => by rw [bind_eq_of_rel _ _ _ _ (hvw.get "type") (fun _ _ ht => ht.asStr)])
  unfold Types.listedIdentities
  revert hfilter
  generalize doc.services.filter _ = x
  generalize doc'.services.filter _ = y
  intro hfilter
  cases hfilter with
  | nil => rfl
  | @cons v w vs ws hvw hrest =>
    cases hrest with
    | cons _ _ => rfl
    | nil =>
      have hentries := bind_rel _ _ _ _ (bind_rel _ _ _ _ (hvw.get "serviceEndpoint")
        (fun _ _ he => he.get "identities")) (fun _ _ hi => hi.asArray)
      dsimp only
      revert hentries
      generalize ((v.get "serviceEndpoint").bind (·.get "identities")).bind Json.asArray = x
      generalize ((w.get "serviceEndpoint").bind (·.get "identities")).bind Json.asArray = y
      intro hentries
      cases hentries with
      | none => rfl
      | some hitems => exact filterMap_eq _ _ _ _ hitems (listedEntry_eq env hserde)

end Listed

end Acdp.Types
