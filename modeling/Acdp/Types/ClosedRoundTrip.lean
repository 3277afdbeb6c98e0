import Acdp.Foundation.Entries
import Acdp.Jcs.Injective
import Acdp.Types.Closed
import Acdp.Types.Members

namespace Acdp.Types

open Acdp.Crypto
open Acdp.Foundation.Entries (seq_ok_iff discard_ok_iff guard_ok_iff)
open Acdp.Jcs (FloatFormat NumberValid SameNumber tryCanonicalizeValue tryCanonicalizeValue_congr)
open Acdp.Types.Json (Valid Same SameMembers valueEq isObject ofUInt closedMembers)

section Fields

variable (members : List (String × Json)) (key : String)

theorem strField_eq_some (s : String) (h : strField members key = some s) :
    members.lookup key = some (.str s) := by
  obtain ⟨v, hv, hs⟩ := Option.bind_eq_some_iff.mp h
  cases v with
  | str s' =>
    obtain rfl := Option.some.inj hs
    exact hv
  | _ => cases hs

theorem uintField_eq_some (bits n : ℕ) (h : uintField members key bits = some n) :
    members.lookup key = some (ofUInt n) ∧ n < 2 ^ bits := by
  obtain ⟨v, hv, hn⟩ := Option.bind_eq_some_iff.mp h
  unfold Json.asUInt at hn
  split at hn
  · split at hn
    · next m hlt =>
      obtain rfl := Option.some.inj hn
      refine ⟨?_, hlt⟩
      rw [hv, ofUInt, UInt64.ofNat_toNat]
    · cases hn
  · cases hn

theorem msField_eq_some (env : LogEnv) (t : DateTime) (h : msField members key env = some t) :
    ∃ raw, members.lookup key = some (.str raw) ∧ env.parseFromRfc3339 raw = .ok t := by
  obtain ⟨raw, hraw, ht⟩ := Option.bind_eq_some_iff.mp h
  refine ⟨raw, strField_eq_some members key raw hraw, ?_⟩
  cases hp : env.parseFromRfc3339 raw with
  | error e =>
    rw [hp] at ht
    cases ht
  | ok t' =>
    rw [hp] at ht
    rw [Option.some.inj ht]

theorem closedMembers_obj (names : List String) (ms : List (String × Json))
    (h : (Json.obj ms).closedMembers names = some members) : ms = members ∧ members.map Prod.fst ⊆ names := by
  rw [closedMembers] at h
  split_ifs at h with hall
  obtain rfl := Option.some.inj h
  refine ⟨rfl, ?_⟩
  intro k hk
  obtain ⟨m, hm, rfl⟩ := List.mem_map.mp hk
  simpa using List.all_eq_true.mp hall m hm

theorem closedMembers_of_get (names : List String) (v w : Json) (h : v.closedMembers names = some members)
    (hget : v.get key = some w) : v = .obj members ∧ members.map Prod.fst ⊆ names := by
  cases v with
  | obj ms =>
    obtain ⟨rfl, hkeys⟩ := closedMembers_obj members names ms h
    exact ⟨rfl, hkeys⟩
  | _ => cases hget

theorem str_held (s : String) (h : strField members key = some s) :
    ∃ b, members.lookup key = some b ∧ Same Eq (.str s) b :=
  ⟨.str s, strField_eq_some members key s h, by rw [Same]⟩

theorem uint_held (bits n : ℕ) (h : uintField members key bits = some n) :
    ∃ b, members.lookup key = some b ∧ Same Eq (ofUInt n) b :=
  ⟨ofUInt n, (uintField_eq_some members key bits n h).1, by rw [ofUInt, Same]⟩

/-- chrono's parser and the millisecond format are inverse on canonical strings. -/
def CanonicalMs (env : Env) : Prop :=
  ∀ raw t, isCanonicalMsUtc env.toLogEnv raw = true → env.parseFromRfc3339 raw = .ok t →
    env.fmtRfc3339Ms t = raw

theorem ms_held (env : Env) (hms : CanonicalMs env) (t : DateTime)
    (h : msField members key env.toLogEnv = some t) (raw : String)
    (hraw : ((Json.obj members).get key).bind Json.asStr = some raw)
    (hcanonical : isCanonicalMsUtc env.toLogEnv raw = true) :
    ∃ b, members.lookup key = some b ∧ Same Eq (.str (env.fmtRfc3339Ms t)) b := by
  obtain ⟨raw', hlookup, hparse⟩ := msField_eq_some members key env.toLogEnv t h
  have heq : raw' = raw := by
    rw [show (Json.obj members).get key = members.lookup key from rfl, hlookup] at hraw
    exact Option.some.inj hraw
  subst heq
  exact ⟨.str raw', hlookup, by rw [hms raw' t hcanonical hparse, Same]⟩

end Fields

theorem Signature.read_same (p : Number → Prop) (v : Json) (s : Signature) (h : Signature.read v = some s)
    (hv : Valid p v) (hobj : v.isObject = true) : Same Eq s.toValue v := by
  cases v with
  | obj members =>
    unfold Signature.read at h
    simp only [Option.bind_eq_bind, Option.bind_eq_some_iff, Option.pure_def, Option.some.injEq] at h
    obtain ⟨ms, hms, algorithm, halgorithm, keyId, hkeyId, value, hvalue, rfl⟩ := h
    obtain ⟨rfl, hkeys⟩ := closedMembers_obj ms _ members hms
    rw [Valid] at hv
    refine Json.same_of_members Eq _ _ (by simp) hv.1 hkeys ?_
    simp only [SameMembers, and_true]
    exact ⟨str_held _ _ _ halgorithm, str_held _ _ _ hkeyId, str_held _ _ _ hvalue⟩
  | _ => cases hobj

structure Signed (unsigned : List (String × Json)) (signature : Signature) (members : List (String × Json)) :
    Prop where
  keys : members.map Prod.fst ⊆ (signedMembers unsigned signature).map Prod.fst
  held : SameMembers Eq unsigned members
  signed : ∃ sig, members.lookup "signature" = some sig ∧ Signature.read sig = some signature

theorem sameMembers_append (r : Number → Number → Prop) (as bs members : List (String × Json)) :
    SameMembers r (as ++ bs) members ↔ SameMembers r as members ∧ SameMembers r bs members := by
  simp only [Json.sameMembers_iff, List.forall_mem_append]

section Signed

variable {unsigned : List (String × Json)} {signature : Signature} {members : List (String × Json)}

theorem Signed.valueEq_iff (h : Signed unsigned signature members)
    (hunique : ((signedMembers unsigned signature).map Prod.fst).Nodup)
    (hvalid : Valid NumberValid (.obj members)) :
    valueEq (.obj (signedMembers unsigned signature)) (.obj members) = true ↔
      ((Json.obj members).get "signature").any isObject = true := by
  obtain ⟨sig, hsig, hread⟩ := h.signed
  rw [Json.valueEq_iff_same, show (Json.obj members).get "signature" =
    members.lookup "signature" from rfl, hsig, Option.any_some]
  rw [Valid, Json.validMembers_iff] at hvalid
  constructor
  · intro hsame
    rw [Same, Json.sameMembers_iff] at hsame
    obtain ⟨b, hb, hobj⟩ := hsame.2 ("signature", signature.toValue) (by simp [signedMembers])
    obtain rfl : sig = b := Option.some.inj (hsig.symm.trans hb)
    cases sig with
    | obj ms => rfl
    | _ => simp [Signature.toValue, Same] at hobj
  · intro hobj
    have hsame : Same Eq signature.toValue sig :=
      Signature.read_same NumberValid sig signature hread (hvalid.2 _ (Json.mem_of_lookup _ _ _ hsig)) hobj
    have hall : Same Eq (.obj (signedMembers unsigned signature)) (.obj members) := by
      refine Json.same_of_members Eq _ _ hunique hvalid.1 h.keys ?_
      rw [signedMembers, sameMembers_append]
      refine ⟨h.held, ?_⟩
      simp only [SameMembers, and_true]
      exact ⟨sig, hsig, hsame⟩
    refine Json.Same.mono ?_ _ _ hall
    rintro m n rfl
    cases m <;> simp [Json.numberEq]

theorem Signed.preimageHash_eq (env : Env) (fmt : FloatFormat)
    (hjcs : env.canonicalize = tryCanonicalizeValue fmt) (h : Signed unsigned signature members)
    (hunique : ((signedMembers unsigned signature).map Prod.fst).Nodup)
    (hvalid : Valid NumberValid (.obj members)) (hunsigned : Valid NumberValid (.obj unsigned)) :
    preimageHashOfMap env (signedMembers unsigned signature) = preimageHashOfMap env members := by
  have hout : "signature" ∉ unsigned.map Prod.fst := by
    intro hin
    rw [signedMembers, List.map_append, List.nodup_append] at hunique
    exact hunique.2.2 _ hin _ List.mem_cons_self rfl
  have hleft : removeKeys ["signature"] (signedMembers unsigned signature) = unsigned := by
    rw [signedMembers, removeKeys, List.filter_append, List.filter_eq_self.mpr]
    · simp
    · intro m hm
      have hne : m.1 ≠ "signature" := fun he => hout (he ▸ List.mem_map_of_mem hm)
      simpa using hne
  have hsame : Same Eq (.obj unsigned) (.obj (removeKeys ["signature"] members)) := by
    have hright := valid_removeKeys NumberValid ["signature"] hvalid
    rw [Valid] at hright hunsigned
    refine Json.same_of_members Eq _ _ hunsigned.1 hright.1 ?_ ?_
    · intro k hk
      obtain ⟨m, hm, rfl⟩ := List.mem_map.mp hk
      obtain ⟨hm, hne⟩ := List.mem_filter.mp hm
      have hin := h.keys (List.mem_map_of_mem hm)
      rw [signedMembers, List.map_append, List.mem_append] at hin
      rcases hin with hin | hin
      · exact hin
      · simp_all
    · rw [Json.sameMembers_iff]
      intro m hm
      obtain ⟨b, hb, hmb⟩ := (Json.sameMembers_iff Eq unsigned members).mp h.held m hm
      refine ⟨b, ?_, hmb⟩
      rw [lookup_removeKeys, hb]
      have hne : m.1 ≠ "signature" := fun he => hout (he ▸ List.mem_map_of_mem hm)
      simpa using hne
  rw [preimageHashOfMap, preimageHashOfMap, hashOfMembers, hashOfMembers, hleft, hjcs,
    tryCanonicalizeValue_congr fmt _ _ hunsigned (valid_removeKeys NumberValid _ hvalid)]
  exact Json.Same.mono (fun m n he => by rw [SameNumber, he]) _ _ hsame

end Signed

structure DerivedSerde (env : HeadEnv) : Prop where
  leaf : ∀ v x, env.leafDeserialize v = .ok x ↔ LogLeaf.read env.toLogEnv v = some x
  leafToValue : ∀ x, env.leafToValue x = .ok (x.toValue env.toEnv)
  checkpoint : ∀ v x, env.checkpointDeserialize v = .ok x ↔ LogCheckpoint.read env.toLogEnv v = some x
  headReceipt : ∀ v x, env.headReceiptDeserialize v = .ok x ↔ LineageHeadReceipt.read env.toLogEnv v = some x
  eventReceipt : ∀ v x, env.eventReceiptDeserialize v = .ok x ↔ EventReceipt.read env.toLogEnv v = some x
  cosignature : ∀ v x, env.cosignatureDeserialize v = .ok x ↔ LogCosignature.read env.toLogEnv v = some x

def CanonicalAt (env : Env) (member : Option Json) : Prop :=
  ∃ raw, member.bind Json.asStr = some raw ∧ isCanonicalMsUtc env.toLogEnv raw = true

theorem CanonicalAt.closed {env : Env} (members : List (String × Json)) (key : String) (names : List String)
    (v : Json) (h : v.closedMembers names = some members) (hat : CanonicalAt env (v.get key)) :
    v = .obj members ∧ members.map Prod.fst ⊆ names := by
  obtain ⟨raw, hraw, -⟩ := hat
  obtain ⟨w, hw, -⟩ := Option.bind_eq_some_iff.mp hraw
  exact closedMembers_of_get members key names v w h hw

section Accepted

variable (env : HeadEnv) (v : Json)

theorem LogLeaf.fromValue_ok (l : LogLeaf) (h : LogLeaf.fromValue env.toLogEnv v = .ok l) :
    env.leafDeserialize v = .ok l ∧ CanonicalAt env.toEnv (v.get "created_at") := by
  unfold LogLeaf.fromValue at h
  split at h
  · cases h
  next l' hde =>
  split at h
  · cases h
  split at h
  · cases h
  next raw hraw =>
  split at h
  · next hcanonical =>
    obtain rfl := Except.ok.inj h
    exact ⟨hde, raw, hraw, hcanonical⟩
  · cases h

theorem LogCheckpoint.fromValue_ok (c : LogCheckpoint) (h : LogCheckpoint.fromValue env.toEnv v = .ok c) :
    env.checkpointDeserialize v = .ok c ∧ CanonicalAt env.toEnv (v.get "timestamp") := by
  unfold LogCheckpoint.fromValue at h
  split at h
  · cases h
  next c' hde =>
  simp only [discard_ok_iff, guard_ok_iff] at h
  obtain ⟨-, -, -, h⟩ := h
  split at h
  · cases h
  next raw hraw =>
  rw [guard_ok_iff, discard_ok_iff] at h
  obtain ⟨hcanonical, -, h⟩ := h
  obtain rfl := Except.ok.inj h
  exact ⟨hde, raw, hraw, not_not.mp hcanonical⟩

theorem LineageHeadReceipt.fromValue_ok (r : LineageHeadReceipt)
    (h : LineageHeadReceipt.fromValue env v = .ok r) :
    env.headReceiptDeserialize v = .ok r ∧ CanonicalAt env.toEnv (v.get "as_of") := by
  unfold LineageHeadReceipt.fromValue at h
  split at h
  · cases h
  next r' hde =>
  split at h
  · cases h
  split at h
  · cases h
  split at h
  · cases h
  split at h
  · cases h
  split at h
  · cases h
  rw [seq_ok_iff] at h
  obtain ⟨hform, h⟩ := h
  obtain rfl := Except.ok.inj h
  unfold LineageHeadReceipt.validateAsOfForm at hform
  split at hform
  · cases hform
  next raw hraw =>
  split at hform
  · next hcanonical => exact ⟨hde, raw, hraw, hcanonical⟩
  · cases hform

theorem EventReceipt.fromValue_ok (r : EventReceipt) (h : EventReceipt.fromValue env.toEnv v = .ok r) :
    env.eventReceiptDeserialize v = .ok r ∧ CanonicalAt env.toEnv (v.get "accepted_at") := by
  unfold EventReceipt.fromValue at h
  split at h
  · cases h
  next hform =>
  split at h
  · cases h
  next r' hde =>
  rw [seq_ok_iff] at h
  obtain rfl := Except.ok.inj h.2
  rw [not_not, Option.any_eq_true] at hform
  exact ⟨hde, hform⟩

theorem LogCosignature.canonicalMember_ok (what : String) (member : Option Json)
    (h : LogCosignature.canonicalMember env.toEnv what member = .ok ()) : CanonicalAt env.toEnv member := by
  unfold LogCosignature.canonicalMember at h
  split at h
  · cases h
  next raw hraw =>
  split at h
  · next hcanonical => exact ⟨raw, hraw, hcanonical⟩
  · cases h

theorem LogCosignature.fromValue_ok (c : LogCosignature) (h : LogCosignature.fromValue env.toEnv v = .ok c) :
    env.cosignatureDeserialize v = .ok c ∧
      CanonicalAt env.toEnv ((v.get "witnessed_checkpoint").bind (·.get "timestamp")) ∧
      CanonicalAt env.toEnv (v.get "witnessed_at") := by
  unfold LogCosignature.fromValue at h
  split at h
  · cases h
  next c' hde =>
  simp only [discard_ok_iff, guard_ok_iff] at h
  obtain ⟨-, -, -, -, ⟨_, hcheckpoint⟩, ⟨_, hat⟩, -, h⟩ := h
  obtain rfl := Except.ok.inj h
  exact ⟨hde, canonicalMember_ok env _ _ hcheckpoint, canonicalMember_ok env _ _ hat⟩

end Accepted

section Held

variable (env : Env) (hms : CanonicalMs env)

include hms

theorem CanonicalAt.held (members : List (String × Json)) (key : String)
    (h : CanonicalAt env ((Json.obj members).get key)) (t : DateTime)
    (hfield : msField members key env.toLogEnv = some t) :
    ∃ b, members.lookup key = some b ∧ Same Eq (.str (env.fmtRfc3339Ms t)) b := by
  obtain ⟨raw, hraw, hcanonical⟩ := h
  exact ms_held members key env hms t hfield raw hraw hcanonical

theorem LogLeaf.read_held (v : Json) (l : LogLeaf) (h : LogLeaf.read env.toLogEnv v = some l)
    (hat : CanonicalAt env (v.get "created_at")) :
    ∃ members, v = .obj members ∧ members.map Prod.fst ⊆ (l.members env).map Prod.fst ∧
      SameMembers Eq (l.members env) members := by
  unfold LogLeaf.read at h
  simp only [Option.bind_eq_bind, Option.bind_eq_some_iff, Option.pure_def, Option.some.injEq] at h
  obtain ⟨members, hmembers, leafVersion, h₁, ctxId, h₂, lineageId, h₃, originRegistry, h₄, createdAt, h₅,
    contentHash, h₆, keyFingerprint, h₇, receiptHash, h₈, rfl⟩ := h
  obtain ⟨rfl, hkeys⟩ := CanonicalAt.closed members "created_at" names v hmembers hat
  refine ⟨members, rfl, hkeys, ?_⟩
  simp only [LogLeaf.members, SameMembers, and_true]
  exact ⟨str_held _ _ _ h₁, str_held _ _ _ h₂, str_held _ _ _ h₃, str_held _ _ _ h₄,
    hat.held env hms _ _ _ h₅, str_held _ _ _ h₆, str_held _ _ _ h₇, str_held _ _ _ h₈⟩

theorem LogCheckpoint.read_signed (v : Json) (c : LogCheckpoint)
    (h : LogCheckpoint.read env.toLogEnv v = some c) (hat : CanonicalAt env (v.get "timestamp")) :
    ∃ members, v = .obj members ∧ Signed (c.unsigned env) c.signature members := by
  unfold LogCheckpoint.read at h
  simp only [Option.bind_eq_bind, Option.bind_eq_some_iff, Option.pure_def, Option.some.injEq] at h
  obtain ⟨members, hmembers, version, h₁, logId, h₂, treeSize, h₃, rootHash, h₄, timestamp, h₅, signature, h₆,
    rfl⟩ := h
  obtain ⟨rfl, hkeys⟩ := CanonicalAt.closed members "timestamp" names v hmembers hat
  refine ⟨members, rfl, hkeys, ?_, h₆⟩
  simp only [LogCheckpoint.unsigned, SameMembers, and_true]
  exact ⟨str_held _ _ _ h₁, str_held _ _ _ h₂, uint_held _ _ _ _ h₃, str_held _ _ _ h₄,
    hat.held env hms _ _ _ h₅⟩

theorem LineageHeadReceipt.read_signed (v : Json) (r : LineageHeadReceipt)
    (h : LineageHeadReceipt.read env.toLogEnv v = some r) (hat : CanonicalAt env (v.get "as_of")) :
    ∃ members, v = .obj members ∧ Signed (r.unsigned env) r.signature members := by
  unfold LineageHeadReceipt.read at h
  simp only [Option.bind_eq_bind, Option.bind_eq_some_iff, Option.pure_def, Option.some.injEq] at h
  obtain ⟨members, hmembers, version, h₁, registryDid, h₂, lineageId, h₃, headCtxId, h₄, headVersion, h₅,
    headStatus, h₆, asOf, h₇, signature, h₈, rfl⟩ := h
  obtain ⟨rfl, hkeys⟩ := CanonicalAt.closed members "as_of" names v hmembers hat
  have hlt := (uintField_eq_some _ _ _ _ h₅).2
  refine ⟨members, rfl, hkeys, ?_, h₈⟩
  simp only [LineageHeadReceipt.unsigned, SameMembers, and_true, UInt32.toNat_ofNat_of_lt' hlt]
  exact ⟨str_held _ _ _ h₁, str_held _ _ _ h₂, str_held _ _ _ h₃, str_held _ _ _ h₄, uint_held _ _ _ _ h₅,
    str_held _ _ _ h₆, hat.held env hms _ _ _ h₇⟩

theorem EventReceipt.read_signed (v : Json) (r : EventReceipt) (h : EventReceipt.read env.toLogEnv v = some r)
    (hat : CanonicalAt env (v.get "accepted_at")) :
    ∃ members, v = .obj members ∧ Signed (r.unsigned env) r.signature members := by
  unfold EventReceipt.read at h
  simp only [Option.bind_eq_bind, Option.bind_eq_some_iff, Option.pure_def, Option.some.injEq] at h
  obtain ⟨members, hmembers, receiptType, h₁, registryDid, h₂, ctxId, h₃, eventId, h₄, eventHash,
    h₅, index, h₆, acceptedAt, h₇, signature, h₈, rfl⟩ := h
  obtain ⟨rfl, hkeys⟩ := CanonicalAt.closed members "accepted_at" names v hmembers hat
  have hlt := (uintField_eq_some _ _ _ _ h₆).2
  refine ⟨members, rfl, hkeys, ?_, h₈⟩
  simp only [EventReceipt.unsigned, SameMembers, and_true, UInt64.toNat_ofNat_of_lt' hlt]
  exact ⟨str_held _ _ _ h₁, str_held _ _ _ h₂, str_held _ _ _ h₃, str_held _ _ _ h₄, str_held _ _ _ h₅,
    uint_held _ _ _ _ h₆, hat.held env hms _ _ _ h₇⟩

theorem WitnessedCheckpoint.read_same (p : Number → Prop) (v : Json) (c : WitnessedCheckpoint)
    (h : WitnessedCheckpoint.read env.toLogEnv v = some c) (hv : Valid p v)
    (hat : CanonicalAt env (v.get "timestamp")) : Same Eq (c.toValue env) v := by
  unfold WitnessedCheckpoint.read at h
  simp only [Option.bind_eq_bind, Option.bind_eq_some_iff, Option.pure_def, Option.some.injEq] at h
  obtain ⟨members, hmembers, logId, h₁, treeSize, h₂, rootHash, h₃, timestamp, h₄, rfl⟩ := h
  obtain ⟨rfl, hkeys⟩ := CanonicalAt.closed members "timestamp" names v hmembers hat
  rw [Valid] at hv
  refine Json.same_of_members Eq _ _ (by simp [WitnessedCheckpoint.members]) hv.1 hkeys ?_
  simp only [WitnessedCheckpoint.members, SameMembers, and_true]
  exact ⟨str_held _ _ _ h₁, uint_held _ _ _ _ h₂, str_held _ _ _ h₃, hat.held env hms _ _ _ h₄⟩

theorem LogCosignature.read_signed (p : Number → Prop) (v : Json) (c : LogCosignature)
    (h : LogCosignature.read env.toLogEnv v = some c) (hv : Valid p v)
    (hcheckpoint : CanonicalAt env ((v.get "witnessed_checkpoint").bind (·.get "timestamp")))
    (hat : CanonicalAt env (v.get "witnessed_at")) :
    ∃ members, v = .obj members ∧ Signed (c.unsigned env) c.signature members := by
  unfold LogCosignature.read at h
  simp only [Option.bind_eq_bind, Option.bind_eq_some_iff, Option.pure_def, Option.some.injEq] at h
  obtain ⟨members, hmembers, version, h₁, witnessId, h₂, checkpoint, ⟨w, hw, h₃⟩, witnessedAt, h₄,
    signature, h₅, rfl⟩ := h
  obtain ⟨rfl, hkeys⟩ := CanonicalAt.closed members "witnessed_at" names v hmembers hat
  refine ⟨members, rfl, hkeys, ?_, h₅⟩
  simp only [LogCosignature.unsigned, SameMembers, and_true]
  refine ⟨str_held _ _ _ h₁, str_held _ _ _ h₂, ⟨w, hw, ?_⟩, hat.held env hms _ _ _ h₄⟩
  rw [Valid, Json.validMembers_iff] at hv
  rw [show (Json.obj members).get "witnessed_checkpoint" = some w from hw] at hcheckpoint
  exact WitnessedCheckpoint.read_same env hms p w checkpoint h₃
    (hv.2 _ (Json.mem_of_lookup _ _ _ hw)) hcheckpoint

end Held

/-- The parsed object is written back as it was read, and both sides hash alike. -/
structure WireAgrees (written v : Json) (ofStruct ofValue : Except AcdpError ContentHash) : Prop where
  value : valueEq written v = true
  hash : ofStruct = ofValue

def signatureIsObject (v : Json) : Bool := (v.get "signature").any isObject

theorem Signed.wireAgrees_iff (env : Env) (fmt : FloatFormat)
    (hjcs : env.canonicalize = tryCanonicalizeValue fmt) (unsigned : List (String × Json))
    (signature : Signature) (members : List (String × Json))
    (h : Signed unsigned signature members)
    (hunique : ((signedMembers unsigned signature).map Prod.fst).Nodup)
    (hvalid : Valid NumberValid (.obj members)) (hunsigned : Valid NumberValid (.obj unsigned))
    (what : String) (mkErr : String → AcdpError) :
    (WireAgrees (.obj (signedMembers unsigned signature)) (.obj members)
        (preimageHashOfObjectWith env (.obj (signedMembers unsigned signature)) what mkErr)
        (preimageHashOfObjectWith env (.obj members) what mkErr) ↔ signatureIsObject (.obj members) = true) ∧
      preimageHashOfObjectWith env (.obj (signedMembers unsigned signature)) what mkErr =
        preimageHashOfObjectWith env (.obj members) what mkErr := by
  have hhash : preimageHashOfObjectWith env (.obj (signedMembers unsigned signature)) what mkErr =
      preimageHashOfObjectWith env (.obj members) what mkErr :=
    h.preimageHash_eq env fmt hjcs hunique hvalid hunsigned
  refine ⟨?_, hhash⟩
  rw [signatureIsObject, ← h.valueEq_iff hunique hvalid]
  exact ⟨fun hagrees => hagrees.value, fun hvalue => ⟨hvalue, hhash⟩⟩

theorem closed_objects_round_trip_iff (env : HeadEnv) (serde : DerivedSerde env) (hms : CanonicalMs env.toEnv)
    (fmt : FloatFormat) (hjcs : env.canonicalize = tryCanonicalizeValue fmt) (v : Json)
    (hv : Valid NumberValid v) :
    (∀ l, LogLeaf.fromValue env.toLogEnv v = .ok l → ∃ written, env.leafToValue l = .ok written ∧
      valueEq written v = true ∧ l.canonicalBytes env.toLogEnv = env.canonicalize v) ∧
    (∀ c, LogCheckpoint.fromValue env.toEnv v = .ok c →
      (WireAgrees (c.toValue env.toEnv) v (c.preimageHash env.toEnv)
        (LogCheckpoint.preimageHashOfValue env.toEnv v) ↔ signatureIsObject v = true) ∧
      c.preimageHash env.toEnv = LogCheckpoint.preimageHashOfValue env.toEnv v) ∧
    (∀ r, LineageHeadReceipt.fromValue env v = .ok r →
      (WireAgrees (r.toValue env.toEnv) v (r.preimageHash env.toEnv)
        (LineageHeadReceipt.preimageHashOfValue env.toEnv v) ↔ signatureIsObject v = true) ∧
      r.preimageHash env.toEnv = LineageHeadReceipt.preimageHashOfValue env.toEnv v) ∧
    (∀ r, EventReceipt.fromValue env.toEnv v = .ok r →
      (WireAgrees (r.toValue env.toEnv) v (r.preimageHash env.toEnv)
        (EventReceipt.preimageHashOfValue env.toEnv v) ↔ signatureIsObject v = true) ∧
      r.preimageHash env.toEnv = EventReceipt.preimageHashOfValue env.toEnv v) ∧
    (∀ c, LogCosignature.fromValue env.toEnv v = .ok c →
      (WireAgrees (c.toValue env.toEnv) v (c.preimageHash env.toEnv)
        (LogCosignature.preimageHashOfValue env.toEnv v) ↔ signatureIsObject v = true) ∧
      c.preimageHash env.toEnv = LogCosignature.preimageHashOfValue env.toEnv v) := by
  refine ⟨?_, ?_, ?_, ?_, ?_⟩
  · intro l h
    obtain ⟨hde, hat⟩ := LogLeaf.fromValue_ok env v l h
    obtain ⟨members, rfl, hkeys, hheld⟩ := LogLeaf.read_held env.toEnv hms v l ((serde.leaf v l).mp hde) hat
    have hunique : ((l.members env.toEnv).map Prod.fst).Nodup := by simp [LogLeaf.members]
    have hsame : Same Eq (l.toValue env.toEnv) (.obj members) := by
      have hnodup := hv
      rw [Valid] at hnodup
      exact Json.same_of_members Eq _ _ hunique hnodup.1 hkeys hheld
    refine ⟨_, serde.leafToValue l, ?_, ?_⟩
    · rw [Json.valueEq_iff_same]
      exact Json.Same.mono (fun m n he => by rw [he]; cases n <;> simp [Json.numberEq]) _ _ hsame
    · rw [LogLeaf.canonicalBytes, serde.leafToValue l]
      change env.canonicalize (l.toValue env.toEnv) = _
      rw [hjcs]
      refine tryCanonicalizeValue_congr fmt _ _ ?_ hv ?_
      · rw [LogLeaf.toValue, Valid]
        exact ⟨hunique, by simp [LogLeaf.members, Json.ValidMembers, Valid]⟩
      · exact Json.Same.mono (fun m n he => by rw [SameNumber, he]) _ _ hsame
  · intro c h
    obtain ⟨hde, hat⟩ := LogCheckpoint.fromValue_ok env v c h
    obtain ⟨members, rfl, hsigned⟩ :=
      LogCheckpoint.read_signed env.toEnv hms v c ((serde.checkpoint v c).mp hde) hat
    refine hsigned.wireAgrees_iff env.toEnv fmt hjcs _ _ _ ?_ hv ?_ _ _
    · simp [signedMembers, LogCheckpoint.unsigned]
    · simp [LogCheckpoint.unsigned, ofUInt, Valid, Json.ValidMembers, NumberValid]
  · intro r h
    obtain ⟨hde, hat⟩ := LineageHeadReceipt.fromValue_ok env v r h
    obtain ⟨members, rfl, hsigned⟩ :=
      LineageHeadReceipt.read_signed env.toEnv hms v r ((serde.headReceipt v r).mp hde) hat
    refine hsigned.wireAgrees_iff env.toEnv fmt hjcs _ _ _ ?_ hv ?_ _ _
    · simp [signedMembers, LineageHeadReceipt.unsigned]
    · simp [LineageHeadReceipt.unsigned, ofUInt, Valid, Json.ValidMembers, NumberValid]
  · intro r h
    obtain ⟨hde, hat⟩ := EventReceipt.fromValue_ok env v r h
    obtain ⟨members, rfl, hsigned⟩ :=
      EventReceipt.read_signed env.toEnv hms v r ((serde.eventReceipt v r).mp hde) hat
    refine hsigned.wireAgrees_iff env.toEnv fmt hjcs _ _ _ ?_ hv ?_ _ _
    · simp [signedMembers, EventReceipt.unsigned]
    · simp [EventReceipt.unsigned, ofUInt, Valid, Json.ValidMembers, NumberValid]
  · intro c h
    obtain ⟨hde, hcheckpoint, hat⟩ := LogCosignature.fromValue_ok env v c h
    obtain ⟨members, rfl, hsigned⟩ := LogCosignature.read_signed env.toEnv hms NumberValid v c
      ((serde.cosignature v c).mp hde) hv hcheckpoint hat
    refine hsigned.wireAgrees_iff env.toEnv fmt hjcs _ _ _ ?_ hv ?_ _ _
    · simp [signedMembers, LogCosignature.unsigned]
    · simp [LogCosignature.unsigned, WitnessedCheckpoint.toValue, WitnessedCheckpoint.members, ofUInt, Valid,
        Json.ValidMembers, NumberValid]

section Sample

def stampText : String := "2026-01-01T00:00:00.000Z"

def stamp : DateTime := ⟨1767225600000000000, by decide, by decide⟩

def stampSpelling (t : DateTime) : String := if t = stamp then stampText else ""

def spell (t : DateTime) : String :=
  if t = stamp then stampText else String.ofList (List.replicate (t.nanos + 8334601228800000000000).toNat 'x')

def parseSpelled (raw : String) : Option DateTime :=
  if raw = stampText then some stamp
  else
    let nanos : ℤ := raw.length - 8334601228800000000000
    if h : -8334601228800000000000 ≤ nanos ∧ nanos ≤ 8210266876799999999999 then some ⟨nanos, h.1, h.2⟩ else
      none

theorem parseSpelled_spell (t : DateTime) : parseSpelled (spell t) = some t := by
  by_cases hstamp : t = stamp
  · rw [spell, if_pos hstamp, parseSpelled, if_pos rfl, hstamp]
  · have hother : String.ofList (List.replicate (t.nanos + 8334601228800000000000).toNat 'x') ≠
        stampText := by
      intro heq
      have hchars := congrArg String.toList heq
      rw [String.toList_ofList] at hchars
      have hmem : '2' ∈ List.replicate (t.nanos + 8334601228800000000000).toNat 'x' := by
        rw [hchars]
        decide
      exact absurd (List.eq_of_mem_replicate hmem) (by decide)
    have hlower := t.lower
    have hupper := t.upper
    have hnanos : ((t.nanos + 8334601228800000000000).toNat : ℤ) - 8334601228800000000000 =
      t.nanos := by omega
    rw [spell, if_neg hstamp, parseSpelled, if_neg hother]
    simp only [String.length_ofList, List.length_replicate, hnanos]
    exact dif_pos ⟨hlower, hupper⟩

def plainEnv : Env where
  leafToValue := fun _ => .error (.invalidLogProof "no leaf")
  leafDeserialize := fun _ => .error "no leaf"
  parseFromRfc3339 :=
    fun raw => if raw = stampText then .ok stamp else .error "input contains invalid characters"
  canonicalize := tryCanonicalizeValue (fun _ => Jcs.one)
  sha256 := fun _ => Vector.replicate 32 0
  usizeBits := 64
  bodyDeserialize := fun _ => .error "no body"
  receiptDeserialize := fun _ => .error "no receipt"
  eventDeserialize := fun _ => .error "no event"
  eventReceiptDeserialize := fun _ => .error "no event receipt"
  checkpointDeserialize := fun _ => .error "no checkpoint"
  inclusionDeserialize := fun _ => .error "no inclusion"
  cosignatureDeserialize := fun _ => .error "no cosignature"
  didDocumentDeserialize := fun _ => .error "no document"
  attestationRefDeserialize := fun _ => .error "no reference"
  attestationDeserialize := fun _ => .error "no attestation"
  identityDeserialize := fun _ => .error "no identity"
  fmtRfc3339Ms := stampSpelling
  display := stampSpelling
  base64UrlDecode := fun _ => .error "no key"
  base58Decode := fun _ => .error "no key"
  p256Compressed := fun _ => .error "no key"
  verifyEd25519 := fun _ _ _ => .error (.invalidSignature "signature verification failed")
  verifyEcdsaP256 := fun _ _ _ => .error (.invalidSignature "signature verification failed")
  validateBodySchema := fun _ => .ok ()

def parsed {α : Type} (x : Option α) : Except String α := x.elim (.error "invalid value") .ok

theorem parsed_ok {α : Type} (x : Option α) (a : α) : parsed x = .ok a ↔ x = some a := by
  cases x <;> simp [parsed]

def closedEnv : HeadEnv where
  toEnv := { plainEnv with
    leafToValue := fun l => .ok (l.toValue plainEnv)
    leafDeserialize := fun v => parsed (LogLeaf.read plainEnv.toLogEnv v)
    checkpointDeserialize := fun v => parsed (LogCheckpoint.read plainEnv.toLogEnv v)
    eventReceiptDeserialize := fun v => parsed (EventReceipt.read plainEnv.toLogEnv v)
    cosignatureDeserialize := fun v => parsed (LogCosignature.read plainEnv.toLogEnv v) }
  headReceiptDeserialize := fun v => parsed (LineageHeadReceipt.read plainEnv.toLogEnv v)

theorem closedEnv_serde : DerivedSerde closedEnv where
  leaf := fun v x => parsed_ok (LogLeaf.read plainEnv.toLogEnv v) x
  leafToValue := fun _ => rfl
  checkpoint := fun v x => parsed_ok (LogCheckpoint.read plainEnv.toLogEnv v) x
  headReceipt := fun v x => parsed_ok (LineageHeadReceipt.read plainEnv.toLogEnv v) x
  eventReceipt := fun v x => parsed_ok (EventReceipt.read plainEnv.toLogEnv v) x
  cosignature := fun v x => parsed_ok (LogCosignature.read plainEnv.toLogEnv v) x

theorem closedEnv_canonicalMs : CanonicalMs closedEnv.toEnv := by
  intro raw t _ hparse
  change (if raw = stampText then Except.ok stamp else .error "input contains invalid characters") =
    _ at hparse
  split_ifs at hparse with hraw
  rw [← Except.ok.inj hparse, hraw]
  change stampSpelling stamp = stampText
  exact if_pos rfl

def checkpointWith (signature : Json) : Json :=
  .obj [("checkpoint_version", .str "acdp-log/1"), ("log_id", .str "did:web:a.example/log/1"),
    ("tree_size", .num (.posInt 0)),
    ("root_hash", .str "sha256:e3b0c44298fc1c149afbf4c8996fb92427ae41e4649b934ca495991b7852b855"),
    ("timestamp", .str "2026-01-01T00:00:00.000Z"), ("signature", signature)]

def objectCheckpoint : Json :=
  checkpointWith (.obj [("key_id", .str "did:web:a.example#key-1"), ("algorithm", .str "ed25519"),
    ("value", .str "AA==")])

def arrayCheckpoint : Json :=
  checkpointWith (.arr [.str "ed25519", .str "did:web:a.example#key-1", .str "AA=="])

def emptyLogCheckpoint : LogCheckpoint where
  checkpointVersion := "acdp-log/1"
  logId := "did:web:a.example/log/1"
  treeSize := 0
  rootHash := "sha256:e3b0c44298fc1c149afbf4c8996fb92427ae41e4649b934ca495991b7852b855"
  timestamp := stamp
  signature := ⟨"ed25519", "did:web:a.example#key-1", "AA=="⟩

theorem objectCheckpoint_written_back :
    valueEq (emptyLogCheckpoint.toValue closedEnv.toEnv) objectCheckpoint = true := by
  have hparsed : LogCheckpoint.fromValue closedEnv.toEnv objectCheckpoint = .ok emptyLogCheckpoint := by
    decide +kernel
  have hvalid : Valid NumberValid objectCheckpoint := by
    simp [objectCheckpoint, checkpointWith, Valid, Json.ValidMembers, NumberValid]
  obtain ⟨-, hcheckpoint, -⟩ := closed_objects_round_trip_iff closedEnv closedEnv_serde closedEnv_canonicalMs
    (fun _ => Jcs.one) rfl objectCheckpoint hvalid
  exact ((hcheckpoint emptyLogCheckpoint hparsed).1.mpr (by decide +kernel)).value

theorem arrayCheckpoint_not_written_back : DerivedSerde closedEnv ∧ CanonicalMs closedEnv.toEnv ∧
    LogCheckpoint.fromValue closedEnv.toEnv arrayCheckpoint = .ok emptyLogCheckpoint ∧
    valueEq (emptyLogCheckpoint.toValue closedEnv.toEnv) arrayCheckpoint = false := by
  refine ⟨closedEnv_serde, closedEnv_canonicalMs, ?_, ?_⟩
  · decide +kernel
  · decide +kernel

end Sample

end Acdp.Types
