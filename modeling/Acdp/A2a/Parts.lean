import Acdp.Foundation.Transition
import Acdp.Provenance.Hashing
import Acdp.Types.Members

namespace Acdp.A2a

open Acdp.Types
open Acdp.Types.Json (insertMember)
open Acdp.Provenance
open Acdp.Foundation.Entries
open Acdp.Foundation.Transition

/-- The library functions of the binding; `lenientDecode` is the engine that asks for no padding and
ignores trailing bits, `standardEncode` the padded standard one. -/
structure A2aEnv extends SaltEnv where
  lenientDecode : String → Except String (List UInt8)
  standardEncode : List UInt8 → String

structure PartError where
  message : String
deriving DecidableEq, Repr

def PartError.display (e : PartError) : String := "invalid A2A Part: " ++ e.message

def contentMembers : List String := ["text", "raw", "url", "data"]

section Normalize

variable (env : A2aEnv)

def standardAlphabet (s : String) : String :=
  String.ofList (s.toList.map (fun c => if c = '-' then '+' else if c = '_' then '/' else c))

def canonicalRaw (s : String) : Except PartError String :=
  match env.lenientDecode (standardAlphabet s) with
  | .error e => .error ⟨"raw is not base64: " ++ e⟩
  | .ok bytes => .ok (env.standardEncode bytes)

def memberValue (k : String) (v : Json) : Except PartError (Option Json) :=
  if v = .null then .ok none
  else if k = "text" ∨ k = "url" then
    if v.asStr.isSome then .ok (some v) else .error ⟨k ++ " is not a string"⟩
  else if k = "raw" then
    match v.asStr with
    | none => .error ⟨"raw is not a string"⟩
    | some s => (canonicalRaw env s).map (fun raw => some (.str raw))
  else if k = "data" then .ok (some v)
  else if k = "metadata" then
    if v.asObject.isSome then .ok (some v) else .error ⟨"metadata is not an object"⟩
  else if k = "filename" ∨ k = "mediaType" then
    match v.asStr with
    | none => .error ⟨k ++ " is not a string"⟩
    | some s => .ok (if s = "" then none else some v)
  else .error ⟨"unknown Part member '" ++ k ++ "'"⟩

def collectMember (state : List (String × Json) × ℕ) (m : String × Json) :
    Except PartError (List (String × Json) × ℕ) :=
  match memberValue env m.1 m.2 with
  | .error e => .error e
  | .ok none => .ok state
  | .ok (some v) => .ok (insertMember state.1 m.1 v, state.2 + if m.1 ∈ contentMembers then 1 else 0)

def normalizePart (part : Json) : Except PartError Json :=
  match part.asObject with
  | none => .error ⟨"a Part is not an object"⟩
  | some members => do
    let (out, content) ← members.foldlM (collectMember env) ([], 0)
    if content ≠ 1 then
      .error ⟨"a Part carries exactly one of text, raw, url, data; this one carries " ++ toString content⟩
    else return .obj out

def normalizeParts (parts : List Json) : Except PartError (List Json) := parts.mapM (normalizePart env)

end Normalize

/-- What the base64 crate documents: the lenient engine reads what the standard one writes, and the
standard alphabet has neither `-` nor `_`. -/
structure Base64Laws (env : A2aEnv) : Prop where
  decode_encode : ∀ bytes, env.lenientDecode (env.standardEncode bytes) = .ok bytes
  alphabet : ∀ bytes, ∀ c ∈ (env.standardEncode bytes).toList, c ≠ '-' ∧ c ≠ '_'

section Idempotent

variable (env : A2aEnv) (hbase64 : Base64Laws env)

include hbase64

theorem canonicalRaw_idempotent (s raw : String) (h : canonicalRaw env s = .ok raw) :
    canonicalRaw env raw = .ok raw := by
  unfold canonicalRaw at h
  split at h
  · cases h
  next bytes _ =>
    obtain rfl := Except.ok.inj h
    have hmapped : standardAlphabet (env.standardEncode bytes) = env.standardEncode bytes := by
      have hmap : (env.standardEncode bytes).toList.map
          (fun c => if c = '-' then '+' else if c = '_' then '/' else c) =
          (env.standardEncode bytes).toList := by
        rw [List.map_congr_left (g := id), List.map_id]
        intro c hc
        obtain ⟨hminus, hunderscore⟩ := hbase64.alphabet bytes c hc
        rw [if_neg hminus, if_neg hunderscore]
        rfl
      rw [standardAlphabet, hmap, String.ofList_toList]
    rw [canonicalRaw, hmapped, hbase64.decode_encode]

theorem memberValue_idempotent (k : String) (v v' : Json) (h : memberValue env k v = .ok (some v')) :
    memberValue env k v' = .ok (some v') := by
  have hkept := h
  unfold memberValue at h
  split at h
  · cases h
  split at h
  · -- `text` and `url`
    split at h
    · obtain rfl := Option.some.inj (Except.ok.inj h)
      exact hkept
    · cases h
  next htext =>
  split at h
  next hraw =>
    split at h
    · cases h
    next s _ =>
      cases hcanonical : canonicalRaw env s with
      | error e =>
        rw [hcanonical] at h
        cases h
      | ok raw =>
        rw [hcanonical] at h
        obtain rfl := Option.some.inj (Except.ok.inj h)
        rw [memberValue, if_neg (by simp), if_neg htext, if_pos hraw, Json.asStr]
        dsimp only
        rw [canonicalRaw_idempotent env hbase64 s raw hcanonical]
        rfl
  split at h
  · obtain rfl := Option.some.inj (Except.ok.inj h)
    exact hkept
  split at h
  · -- `metadata`
    split at h
    · obtain rfl := Option.some.inj (Except.ok.inj h)
      exact hkept
    · cases h
  split at h
  · -- `filename` and `mediaType`
    split at h
    · cases h
    · split at h
      · cases h
      · obtain rfl := Option.some.inj (Except.ok.inj h)
        exact hkept
  · cases h

structure Collected (state : List (String × Json) × ℕ) : Prop where
  nodup : (state.1.map Prod.fst).Nodup
  kept : ∀ m ∈ state.1, memberValue env m.1 m.2 = .ok (some m.2)
  atMost : (state.1.map Prod.fst).countP (· ∈ contentMembers) ≤ state.2
  some : 0 < state.2 → 0 < (state.1.map Prod.fst).countP (· ∈ contentMembers)

theorem Collected.collectMember (state state' : List (String × Json) × ℕ) (m : String × Json)
    (hstate : Collected env state) (h : A2a.collectMember env state m = .ok state') :
    Collected env state' := by
  unfold A2a.collectMember at h
  split at h
  · cases h
  · obtain rfl := Except.ok.inj h
    exact hstate
  next v hv =>
    obtain rfl := Except.ok.inj h
    refine ⟨nodup_insertMember _ _ _ hstate.nodup, ?_, ?_, ?_⟩
    · intro n hn
      rcases mem_insertMember _ _ _ n hn with rfl | hn
      · exact memberValue_idempotent env hbase64 m.1 m.2 v hv
      · exact hstate.kept n hn
    · have := hstate.atMost
      rw [keys_insertMember]
      split
      · exact this.trans (Nat.le_add_right _ _)
      · rw [List.countP_append, List.countP_singleton]
        simp only [decide_eq_true_eq]
        exact Nat.add_le_add_right this _
    · intro hpos
      rw [keys_insertMember]
      by_cases hcontent : m.1 ∈ contentMembers
      · rw [List.countP_pos_iff]
        refine ⟨m.1, ?_, decide_eq_true hcontent⟩
        split
        next hin => exact hin
        · exact List.mem_append_right _ (List.mem_singleton_self _)
      · rw [if_neg hcontent, Nat.add_zero] at hpos
        have := hstate.some hpos
        split
        · exact this
        · rw [List.countP_append]
          omega

omit hbase64 in
theorem foldlM_collectMember (members out : List (String × Json)) (n : ℕ)
    (hnodup : ((out ++ members).map Prod.fst).Nodup)
    (hkept : ∀ m ∈ members, memberValue env m.1 m.2 = .ok (some m.2)) :
    members.foldlM (collectMember env) (out, n) =
      .ok (out ++ members, n + (members.map Prod.fst).countP (· ∈ contentMembers)) := by
  induction members generalizing out n with
  | nil => simp [pure, Except.pure]
  | cons m members ih =>
    obtain ⟨hm, hmembers⟩ := List.forall_mem_cons.mp hkept
    have hfresh : m.1 ∉ out.map Prod.fst := by
      rw [List.map_append, List.map_cons] at hnodup
      intro hin
      exact (List.nodup_append.mp hnodup).2.2 _ hin _ List.mem_cons_self rfl
    have hstep : collectMember env (out, n) m =
        .ok (out ++ [m], n + if m.1 ∈ contentMembers then 1 else 0) := by
      rw [collectMember, hm]
      dsimp only
      rw [insertMember_of_not_mem _ _ _ hfresh]
    rw [List.foldlM_cons, hstep]
    change members.foldlM (collectMember env) _ = _
    rw [ih (out ++ [m]) _ (by rwa [List.append_assoc, List.singleton_append]) hmembers, List.append_assoc,
      List.singleton_append, List.map_cons, List.countP_cons, Nat.add_assoc]
    simp only [decide_eq_true_eq, Nat.add_comm]

theorem normalizePart_idempotent (part p : Json) (h : normalizePart env part = .ok p) :
    normalizePart env p = .ok p := by
  unfold normalizePart at h
  split at h
  · cases h
  next members _ =>
    obtain ⟨⟨out, content⟩, hfold, h⟩ := bind_ok _ _ _ h
    dsimp only at h
    split at h
    · cases h
    next hcontent =>
      obtain rfl := Except.ok.inj h
      have hcollected : Collected env (out, content) :=
        foldlM_ok_invariant (collectMember env) (fun _ state => Collected env state)
          (fun _ m s s' hs hm => hs.collectMember env hbase64 s s' m hm) members [] ([], 0) _
          ⟨List.nodup_nil, by simp, le_rfl, by simp⟩ hfold
      have hone : (out.map Prod.fst).countP (· ∈ contentMembers) = 1 := by
        have hle := hcollected.atMost
        have hpos := hcollected.some
        dsimp only at hle hpos
        omega
      rw [normalizePart, Json.asObject]
      dsimp only
      rw [foldlM_collectMember env out [] 0 hcollected.nodup hcollected.kept, hone]
      rfl

end Idempotent

section Validity

variable (env : A2aEnv) (P : Number → Prop)

theorem memberValue_valid (k : String) (v v' : Json) (hv : v.Valid P)
    (h : memberValue env k v = .ok (some v')) : v'.Valid P := by
  unfold memberValue at h
  split at h
  · cases h
  split at h
  · split at h
    · obtain rfl := Option.some.inj (Except.ok.inj h)
      exact hv
    · cases h
  split at h
  · split at h
    · cases h
    next s _ =>
      cases hraw : canonicalRaw env s with
      | error e =>
        rw [hraw] at h
        cases h
      | ok raw =>
        rw [hraw] at h
        obtain rfl := Option.some.inj (Except.ok.inj h)
        trivial
  split at h
  · obtain rfl := Option.some.inj (Except.ok.inj h)
    exact hv
  split at h
  · split at h
    · obtain rfl := Option.some.inj (Except.ok.inj h)
      exact hv
    · cases h
  split at h
  · split at h
    · cases h
    · split at h
      · cases h
      · obtain rfl := Option.some.inj (Except.ok.inj h)
        exact hv
  · cases h

theorem normalizePart_valid (part p : Json) (hpart : part.Valid P) (h : normalizePart env part = .ok p) :
    p.Valid P := by
  cases part with
  | obj members =>
    obtain ⟨-, hmembers⟩ := hpart
    rw [Json.validMembers_iff] at hmembers
    obtain ⟨⟨out, content⟩, hfold, h⟩ := bind_ok _ _ _ h
    dsimp only at h
    split at h
    · cases h
    obtain rfl := Except.ok.inj h
    have hvalid : (∀ m ∈ members, m.2.Valid P) → (out.map Prod.fst).Nodup ∧ ∀ m ∈ out, m.2.Valid P := by
      refine foldlM_ok_invariant (collectMember env)
        (fun done state => (∀ m ∈ done, m.2.Valid P) → (state.1.map Prod.fst).Nodup ∧
        ∀ m ∈ state.1, m.2.Valid P)
        (fun done m state state' hstate hm hdone => ?_) members [] ([], 0) _
        (fun _ => ⟨List.nodup_nil, by simp⟩) hfold
      obtain ⟨hnodup, hout⟩ := hstate (fun n hn => hdone n (List.mem_append_left _ hn))
      have hlast := hdone m (List.mem_append_right _ (List.mem_singleton_self m))
      unfold collectMember at hm
      split at hm
      · cases hm
      · obtain rfl := Except.ok.inj hm
        exact ⟨hnodup, hout⟩
      next v hv =>
        obtain rfl := Except.ok.inj hm
        refine ⟨nodup_insertMember _ _ _ hnodup, fun n hn => ?_⟩
        rcases mem_insertMember _ _ _ n hn with rfl | hn
        · exact memberValue_valid env P m.1 m.2 v hlast hv
        · exact hout n hn
    obtain ⟨hnodup, hout⟩ := hvalid hmembers
    exact ⟨hnodup, (Json.validMembers_iff P out).mpr hout⟩
  | _ => cases h

end Validity

theorem normalizeParts_ok_iff (env : A2aEnv) (parts ps : List Json) :
    normalizeParts env parts = .ok ps ↔
      List.Forall₂ (fun part p => normalizePart env part = .ok p) parts ps := by
  constructor
  · exact forall₂_of_mapM_ok _ _ _
  · intro h
    induction h with
    | nil => rfl
    | cons hpart _ ih =>
      rw [normalizeParts] at ih ⊢
      rw [List.mapM_cons, hpart, ih]
      rfl

def Normal (env : A2aEnv) (parts : List Json) : Prop := ∀ p ∈ parts, normalizePart env p = .ok p

theorem normal_of_normalizeParts (env : A2aEnv) (hbase64 : Base64Laws env) (parts ps : List Json)
    (h : normalizeParts env parts = .ok ps) : Normal env ps := by
  rw [normalizeParts_ok_iff] at h
  intro p hp
  obtain ⟨part, -, hpart⟩ := mem_of_forall₂_ok _ _ _ h p hp
  exact normalizePart_idempotent env hbase64 part p hpart

end Acdp.A2a
