import Acdp.Types.Decode
import Acdp.Types.JsonAlike
import Acdp.Types.Keyless

namespace Acdp.Types

open Acdp.Crypto
open Acdp.Foundation.Related
open Json (Alike)

section Read

def listField {α : Type} (read : Json → Option α) (members : List (String × Json)) (key : String) :
    Option (List α) :=
  match members.lookup key with
  | none => some []
  | some v => v.asArray.bind (·.mapM read)

def structMembers (names : List String) : Json → Option (List (String × Json))
  | .obj members => some members
  | .arr items => if items.length = names.length then some (names.zip items) else none
  | _ => none

def VerificationMethod.names : List String :=
    ["id", "type", "controller", "publicKeyJwk", "publicKeyMultibase"]

def VerificationMethod.read (v : Json) : Option VerificationMethod := do
  let members ← structMembers VerificationMethod.names v
  let id ← strField members "id"
  let methodType ← strField members "type"
  let controller ← strField members "controller"
  let publicKeyJwk ← optionField members "publicKeyJwk" some
  let publicKeyMultibase ← optionField members "publicKeyMultibase" Json.asStr
  return ⟨id, methodType, controller, publicKeyJwk, publicKeyMultibase⟩

def AssertionMethodRef.read : Json → Option AssertionMethodRef
  | .str s => some (.id s)
  | v => (VerificationMethod.read v).map .embedded

def DidDocument.read (members : List (String × Json)) : Option DidDocument := do
  let id ← strField members "id"
  let verificationMethods ← listField VerificationMethod.read members "verificationMethod"
  let assertionMethod ← listField AssertionMethodRef.read members "assertionMethod"
  let services ← listField some members "service"
  return ⟨id, verificationMethods, assertionMethod, services⟩

def WorkloadIdentity.read (members : List (String × Json)) : Option WorkloadIdentity := do
  let tag ← strField members "type"
  if tag = "oidc" then
    if members.all (fun m => m.1 ∈ ["type", "issuer", "subject"]) then
      return .oidc (← strField members "issuer") (← strField members "subject")
    else none
  else if tag = "spiffe" then
    if members.all (fun m => m.1 ∈ ["type", "subject"]) then return .spiffe (← strField members "subject")
    else none
  else none

end Read

structure DocumentSerde (env : Env) : Prop where
  document : ∀ members doc, env.didDocumentDeserialize (.obj members) = .ok doc ↔
    DidDocument.read members = some doc
  identity : ∀ members identity, env.identityDeserialize (.obj members) = .ok identity ↔
    WorkloadIdentity.read members = some identity

section Fields

variable (as bs : List (String × Json))

def LookupAlike : Prop := ∀ k, Option.Rel Alike (as.lookup k) (bs.lookup k)

theorem lookupAlike_zip (names : List String) (items items' : List Json)
    (h : List.Forall₂ Alike items items') : LookupAlike (names.zip items) (names.zip items') := by
  intro k
  induction names generalizing items items' with
  | nil => exact .none
  | cons name names ih =>
    cases h with
    | nil => exact .none
    | @cons v w vs ws hvw hrest =>
      rw [List.zip_cons_cons, List.zip_cons_cons, List.lookup_cons, List.lookup_cons]
      cases k == name with
      | true => exact .some hvw
      | false => exact ih vs ws hrest

theorem structMembers_rel (names : List String) (v w : Json) (h : Alike v w) :
    Option.Rel LookupAlike (structMembers names v) (structMembers names w) := by
  have hobject := h.asObject
  have harray := h.asArray
  cases v <;> cases w <;> simp only [Json.asObject, Json.asArray] at hobject harray <;>
    first | exact .none | (cases hobject; done) | (cases harray; done) | skip
  next items items' =>
    cases harray with
    | some hitems =>
      rw [structMembers, structMembers, hitems.length_eq]
      split
      · exact .some (lookupAlike_zip names items items' hitems)
      · exact .none
  next members members' =>
    cases hobject with
    | some hmembers => exact .some (fun k => Alike.lookup members members' hmembers k)

variable {as bs} (h : LookupAlike as bs)
include h

theorem strField_eq (key : String) : strField as key = strField bs key :=
  bind_eq_of_rel _ _ _ _ (h key) (fun _ _ hvw => hvw.asStr)

theorem optionField_rel {α : Type} {R : α → α → Prop} (read : Json → Option α)
    (hread : ∀ v w, Alike v w → Option.Rel R (read v) (read w)) (key : String) :
    Option.Rel (Option.Rel R) (optionField as key read) (optionField bs key read) := by
  unfold optionField
  have hk := h key
  cases hv : as.lookup key with
  | none =>
    rw [hv] at hk
    cases hw : bs.lookup key with
    | none => exact .some .none
    | some w =>
      rw [hw] at hk
      cases hk
  | some v =>
    rw [hv] at hk
    cases hw : bs.lookup key with
    | none =>
      rw [hw] at hk
      cases hk
    | some w =>
      rw [hw] at hk
      cases hk with
      | some hvw =>
        have hread := map_rel (S := Option.Rel R) _ _ some some (hread v w hvw) (fun _ _ hab => .some hab)
        have hnull : v = .null ↔ w = .null := by
          rcases hvw with rfl | ⟨-, -, hsame⟩
          · rfl
          · cases v <;> cases w <;> simp_all [Json.Same]
        by_cases hv : v = .null
        · rw [hv, hnull.mp hv]
          exact .some .none
        · have hw : w ≠ .null := fun hw => hv (hnull.mpr hw)
          cases v <;> cases w <;> first | exact hread | exact absurd rfl hv | exact absurd rfl hw

theorem listField_rel {α : Type} {R : α → α → Prop} (read : Json → Option α)
    (hread : ∀ v w, Alike v w → Option.Rel R (read v) (read w)) (key : String) :
    Option.Rel (List.Forall₂ R) (listField read as key) (listField read bs key) := by
  unfold listField
  have hk := h key
  cases hv : as.lookup key with
  | none =>
    rw [hv] at hk
    cases hw : bs.lookup key with
    | none => exact .some .nil
    | some w =>
      rw [hw] at hk
      cases hk
  | some v =>
    rw [hv] at hk
    cases hw : bs.lookup key with
    | none =>
      rw [hw] at hk
      cases hk
    | some w =>
      rw [hw] at hk
      cases hk with
      | some hvw =>
        exact bind_rel _ _ _ _ hvw.asArray (fun items items' hitems => mapM_rel _ _ _ _ hitems hread)

end Fields

/-- The two methods differ in the order of their JWK's members only. -/
structure VerificationMethod.Alike (m m' : VerificationMethod) : Prop where
  id : m.id = m'.id
  methodType : m.methodType = m'.methodType
  controller : m.controller = m'.controller
  jwk : Option.Rel Json.Alike m.publicKeyJwk m'.publicKeyJwk
  multibase : m.publicKeyMultibase = m'.publicKeyMultibase

structure DidDocument.Alike (doc doc' : DidDocument) : Prop where
  id : doc.id = doc'.id
  methods : List.Forall₂ VerificationMethod.Alike doc.verificationMethods doc'.verificationMethods
  assertions : doc.assertionMethod.map AssertionMethodRef.target =
    doc'.assertionMethod.map AssertionMethodRef.target
  services : List.Forall₂ Json.Alike doc.services doc'.services

theorem DidDocument.Alike.refl (doc : DidDocument) : doc.Alike doc where
  id := rfl
  methods := List.forall₂_same.mpr (fun _ _ => ⟨rfl, rfl, rfl, Json.Alike.option_refl _, rfl⟩)
  assertions := rfl
  services := Json.Alike.items_refl _

section Reading

theorem bind_same {α β γ : Type} {S : β → γ → Prop} (x : Option α) (f : α → Option β) (g : α → Option γ)
    (h : ∀ a, Option.Rel S (f a) (g a)) : Option.Rel S (x >>= f) (x >>= g) := by
  cases x with
  | none => exact .none
  | some a => exact h a

theorem optionStr_eq (as bs : List (String × Json)) (h : LookupAlike as bs) (key : String) :
    optionField as key Json.asStr = optionField bs key Json.asStr := by
  have hrel := optionField_rel h (R := Eq) Json.asStr (fun v w hvw => by
    rw [hvw.asStr]
    cases w.asStr with
    | none => exact .none
    | some s => exact .some rfl) key
  generalize optionField as key Json.asStr = x at hrel
  generalize optionField bs key Json.asStr = y at hrel
  cases hrel with
  | none => rfl
  | some hab =>
    cases hab with
    | none => rfl
    | some heq => rw [heq]

theorem VerificationMethod.read_rel (v w : Json) (h : Json.Alike v w) :
    Option.Rel VerificationMethod.Alike (VerificationMethod.read v) (VerificationMethod.read w) := by
  refine bind_rel _ _ _ _ (structMembers_rel VerificationMethod.names v w h) (fun as bs hl => ?_)
  rw [strField_eq hl, strField_eq hl, strField_eq hl, optionStr_eq as bs hl]
  refine bind_same _ _ _
    (fun id => bind_same _ _ _ (fun methodType => bind_same _ _ _ (fun controller => ?_)))
  refine bind_rel _ _ _ _ (optionField_rel hl some (fun v w hvw => .some hvw) "publicKeyJwk")
    (fun jwk jwk' hjwk => ?_)
  refine bind_same _ _ _ (fun multibase => ?_)
  exact .some ⟨rfl, rfl, rfl, hjwk, rfl⟩

theorem AssertionMethodRef.read_rel (v w : Json) (h : Json.Alike v w) :
    Option.Rel (fun r r' => AssertionMethodRef.target r = AssertionMethodRef.target r')
      (AssertionMethodRef.read v) (AssertionMethodRef.read w) := by
  have hstr := h.asStr
  have hmethod := map_rel (S := fun r r' => AssertionMethodRef.target r = AssertionMethodRef.target r') _ _
    AssertionMethodRef.embedded AssertionMethodRef.embedded (VerificationMethod.read_rel v w h)
    (fun _ _ hm => hm.id)
  cases v <;> cases w <;> simp only [Json.asStr, reduceCtorEq, Option.some.injEq] at hstr <;>
    first | exact hmethod | skip
  subst hstr
  exact .some rfl

theorem DidDocument.read_rel (as bs : List (String × Json)) (h : Json.Alike (.obj as) (.obj bs)) :
    Option.Rel DidDocument.Alike (DidDocument.read as) (DidDocument.read bs) := by
  have hl : LookupAlike as bs := fun k => Json.Alike.lookup as bs h k
  unfold DidDocument.read
  rw [strField_eq hl]
  refine bind_same _ _ _ (fun id => ?_)
  refine bind_rel _ _ _ _ (listField_rel hl VerificationMethod.read VerificationMethod.read_rel _)
    (fun ms ms' hms => ?_)
  refine bind_rel _ _ _ _ (listField_rel hl AssertionMethodRef.read AssertionMethodRef.read_rel _)
    (fun rs rs' hrs => ?_)
  refine bind_rel _ _ _ _ (listField_rel hl some (fun v w hvw => .some hvw) _) (fun ss ss' hss => ?_)
  exact .some ⟨rfl, hms, map_eq _ _ _ _ hrs (fun _ _ hr => hr), hss⟩

end Reading

end Acdp.Types
