import Acdp.Foundation.Entries
import Acdp.Types.LogProof
import Mathlib.Data.List.Perm.Subperm
import Std.Data.ExtTreeMap
import Std.Data.ExtTreeSet

namespace Acdp.Types

open Acdp.Crypto
open Acdp.Crypto.Merkle (Digest)

def verifySignatureOverHashWith (env : Env) (signature : Signature) (hash : ContentHash)
    (pubEd25519 : Option Digest) (pubP256Sec1 : Option (List UInt8)) (what : String)
    (mkErr : String → AcdpError) : Except AcdpError Unit :=
  if signature.algorithm = "ed25519" then
    match pubEd25519 with
    | none => .error (mkErr (what ++ " declares ed25519 but no ed25519 registry key was resolved"))
    | some key => (env.verifyEd25519 key signature.value hash).mapError
        (fun e => mkErr (what ++ " signature: " ++ e.display))
  else if signature.algorithm = "ecdsa-p256" then
    match pubP256Sec1 with
    | none => .error (mkErr (what ++ " declares ecdsa-p256 but no p256 registry key was resolved"))
    | some key => (env.verifyEcdsaP256 key signature.value hash).mapError
        (fun e => mkErr (what ++ " signature: " ++ e.display))
  else .error (mkErr (what ++ " signature algorithm '" ++ signature.algorithm ++ "' is not supported"))

namespace LogCosignature

def checkpointTuple (c : LogCosignature) : String × ℕ × String :=
  (c.witnessedCheckpoint.logId, c.witnessedCheckpoint.treeSize, c.witnessedCheckpoint.rootHash)

def verifySignatureAgainstHash (env : Env) (c : LogCosignature) (hash : ContentHash)
    (pubEd25519 : Option Digest) (pubP256Sec1 : Option (List UInt8)) : Except AcdpError Unit :=
  verifySignatureOverHashWith env c.signature hash pubEd25519 pubP256Sec1 "log_cosignature"
    .invalidWitnessCosignature

def checkWitnessedAtSkew (env : Env) (c : LogCosignature) (now : DateTime) (maxClockSkew : ℕ) :
    Except AcdpError Unit :=
  if c.witnessedAt.nanos % 1000000 ≠ 0 then
    .error (.invalidWitnessCosignature
      "log_cosignature witnessed_at is not millisecond-truncated (RFC-ACDP-0001 §5.3)")
  else if now.nanos + maxClockSkew * 1000000000 < c.witnessedAt.nanos then
    .error (.invalidWitnessCosignature ("log_cosignature witnessed_at '" ++ env.fmtRfc3339Ms c.witnessedAt ++
      "' is in the future beyond the " ++ toString maxClockSkew ++
      "s clock-skew allowance (consumer clock '" ++
      env.fmtRfc3339Ms now ++ "') — forged observation-time claim (RFC-ACDP-0015 §8 step 5)"))
  else .ok ()

def ageAt (c : LogCosignature) (now : DateTime) : ℤ := now.nanos - c.witnessedAt.nanos

end LogCosignature

end Acdp.Types

namespace Acdp.Client

open Acdp.Types
open Acdp.Foundation.Entries
open Std (ExtTreeMap ExtTreeSet)

def defaultWitnessMaxClockSkewSeconds : ℕ := 120

def defaultWitnessMaxAgeSeconds : ℕ := 300

structure WitnessPolicy where
  minWitnesses : ℕ := 1
  maxAgeSeconds : Option ℕ := some defaultWitnessMaxAgeSeconds
  maxClockSkewSeconds : ℕ := defaultWitnessMaxClockSkewSeconds
deriving DecidableEq, Repr

structure WitnessQuorumReport where
  witnessedCount : ℕ
  witnesses : List String
  meetsQuorum : Bool
  freshWitnessedCount : ℕ
  meetsFreshQuorum : Bool
  failures : List AcdpError
deriving DecidableEq, Repr

section Verify

variable (env : Env)

def parseWitnessDocument (value : Json) : Except AcdpError DidDocument :=
  match env.didDocumentDeserialize value with
  | .error e => .error (.invalidWitnessCosignature s!"witness DID document does not parse: {e}")
  | .ok doc => .ok doc

/-- The method of `signature.key_id`, which need not be listed under `assertionMethod`. -/
def witnessMethod (doc : DidDocument) (keyId : String) : Except AcdpError VerificationMethod :=
  match Text.splitOnceChar '#' keyId with
  | none => .error (.invalidWitnessCosignature
      ("witness cosignature signature.key_id '" ++ keyId ++ "' has no fragment"))
  | some (_, fragment) =>
    match doc.findByFragment fragment with
    | none => .error (.invalidWitnessCosignature ("witness DID document has no verification method '#" ++
        fragment ++ "' — witness keys (including retired ones) must remain in verificationMethod " ++
        "(RFC-ACDP-0015 §9)"))
    | some method => .ok method

def keyExtraction {α : Type} (key : Except AcdpError α) : Except AcdpError α :=
  key.mapError (fun e => .invalidWitnessCosignature ("witness key extraction: " ++ e.display))

def verifyWitnessSignature (cosig : LogCosignature) (method : VerificationMethod) (rawHash : ContentHash) :
    Except AcdpError Unit :=
  if cosig.signature.algorithm = "ed25519" then do
    let key ← keyExtraction (method.ed25519PublicKeyBytes env)
    cosig.verifySignatureAgainstHash env rawHash (some key) none
  else if cosig.signature.algorithm = "ecdsa-p256" then do
    let key ← keyExtraction (method.ecdsaP256PublicKeySec1 env)
    cosig.verifySignatureAgainstHash env rawHash none (some key)
  else .error (.invalidWitnessCosignature ("witness cosignature signature algorithm '" ++
    cosig.signature.algorithm ++ "' is not supported"))

def verifyWitnessCosignatureValue (cosigValue witnessDidDoc : Json) (expectedCheckpoint : LogCheckpoint)
    (now : DateTime) (maxClockSkewSeconds : Option ℕ) : Except AcdpError LogCosignature := do
  let cosig ← LogCosignature.fromValue env cosigValue
  cosig.crossCheckAgainstCheckpoint expectedCheckpoint
  let doc ← parseWitnessDocument env witnessDidDoc
  if doc.id ≠ cosig.witnessId then
    .error (.invalidWitnessCosignature ("witness DID document id '" ++ doc.id ++
      "' ≠ cosignature witness_id '" ++ cosig.witnessId ++ "' (RFC-ACDP-0015 §8 step 3)"))
  let method ← witnessMethod doc cosig.signature.keyId
  let rawHash ← LogCosignature.preimageHashOfValue env cosigValue
  verifyWitnessSignature env cosig method rawHash
  cosig.checkWitnessedAtSkew env now (maxClockSkewSeconds.getD defaultWitnessMaxClockSkewSeconds)
  return cosig

end Verify

structure Tally where
  verified : ExtTreeSet String
  fresh : ExtTreeSet String
  failures : List AcdpError

def WitnessPolicy.withinAge (policy : WitnessPolicy) (cosig : LogCosignature) (now : DateTime) : Bool :=
  policy.maxAgeSeconds.all (fun max => decide (cosig.ageAt now ≤ max * 1000000000))

section Quorum

variable (env : Env) (witnessDidDocs : ExtTreeMap String Json) (trustedWitnesses : ExtTreeSet String)
  (expectedCheckpoint : LogCheckpoint) (policy : WitnessPolicy) (now : DateTime)

def expectedTuple : String × ℕ × String :=
  (expectedCheckpoint.logId, expectedCheckpoint.treeSize, expectedCheckpoint.rootHash)

def countCosignature (tally : Tally) (value : Json) : Tally :=
  match LogCosignature.fromValue env value with
  | .error _ => tally
  | .ok peek =>
    if peek.checkpointTuple ≠ expectedTuple expectedCheckpoint then tally
    else if peek.witnessId ∉ trustedWitnesses then tally
    else match witnessDidDocs[peek.witnessId]? with
      | none => { tally with failures := tally.failures ++ [.invalidWitnessCosignature
          ("no DID document supplied for trusted witness '" ++ peek.witnessId ++
            "' — cannot verify its cosignature (RFC-ACDP-0015 §8 step 2)")] }
      | some doc =>
        match verifyWitnessCosignatureValue env value doc expectedCheckpoint now
            (some policy.maxClockSkewSeconds) with
        | .error e => { tally with failures := tally.failures ++ [e] }
        | .ok cosig => { tally with
            verified := tally.verified.insert cosig.witnessId
            fresh := if policy.withinAge cosig now then tally.fresh.insert cosig.witnessId else tally.fresh }

def tallyOf (cosignatures : List Json) : Tally :=
  cosignatures.foldl (countCosignature env witnessDidDocs trustedWitnesses expectedCheckpoint policy now)
    ⟨∅, ∅, []⟩

def evaluateWitnessQuorum (cosignatures : List Json) : WitnessQuorumReport :=
  let tally := tallyOf env witnessDidDocs trustedWitnesses expectedCheckpoint policy now cosignatures
  { witnessedCount := tally.verified.size
    witnesses := tally.verified.toList
    meetsQuorum := decide (policy.minWitnesses ≤ tally.verified.size)
    freshWitnessedCount := tally.fresh.size
    meetsFreshQuorum := decide (policy.minWitnesses ≤ tally.fresh.size)
    failures := tally.failures }

end Quorum

section Exact

variable (env : Env) (docs : ExtTreeMap String Json) (trusted : ExtTreeSet String)
    (checkpoint : LogCheckpoint) (policy : WitnessPolicy) (now : DateTime)

theorem verifyWitnessCosignatureValue_ok (value doc : Json) (skew : Option ℕ) (c : LogCosignature)
    (h : verifyWitnessCosignatureValue env value doc checkpoint now skew = .ok c) :
    LogCosignature.fromValue env value = .ok c := by
  obtain ⟨cosig, hcosig, h⟩ := bind_ok _ _ _ h
  obtain ⟨-, h⟩ := (seq_ok_iff _ _ _).mp h
  obtain ⟨doc, -, h⟩ := bind_ok _ _ _ h
  obtain ⟨-, h⟩ := (guard_ok_iff _ _ _ _).mp h
  obtain ⟨method, -, h⟩ := bind_ok _ _ _ h
  obtain ⟨hash, -, h⟩ := bind_ok _ _ _ h
  obtain ⟨-, h⟩ := (seq_ok_iff _ _ _).mp h
  obtain ⟨-, h⟩ := (seq_ok_iff _ _ _).mp h
  obtain rfl := Except.ok.inj h
  exact hcosig

/-- `value` is a cosignature `c` of the witness `w` over the checkpoint, and it verifies. -/
def Attests (value : Json) (w : String) (c : LogCosignature) : Prop :=
  LogCosignature.fromValue env value = .ok c ∧ c.witnessId = w ∧
    c.checkpointTuple = expectedTuple checkpoint ∧ ∃ doc, docs[w]? = some doc ∧
      verifyWitnessCosignatureValue env value doc checkpoint now (some policy.maxClockSkewSeconds) = .ok c

theorem countCosignature_cases (tally : Tally) (value : Json) :
    (∃ c, c.witnessId ∈ trusted ∧ Attests env docs checkpoint policy now value c.witnessId c ∧
      (countCosignature env docs trusted checkpoint policy now tally value).verified =
        tally.verified.insert c.witnessId ∧
      (countCosignature env docs trusted checkpoint policy now tally value).fresh =
        if policy.withinAge c now then tally.fresh.insert c.witnessId else tally.fresh) ∨
    ((∀ w ∈ trusted, ∀ c, ¬ Attests env docs checkpoint policy now value w c) ∧
      (countCosignature env docs trusted checkpoint policy now tally value).verified = tally.verified ∧
      (countCosignature env docs trusted checkpoint policy now tally value).fresh = tally.fresh) := by
  unfold countCosignature
  split
  next e he =>
    refine Or.inr ⟨?_, rfl, rfl⟩
    rintro w - c ⟨hc, -⟩
    rw [he] at hc
    cases hc
  next peek hpeek =>
    have hunique (w : String) (c : LogCosignature) (h : Attests env docs checkpoint policy now value w c) :
        c = peek := by
      rw [h.1] at hpeek
      exact Except.ok.inj hpeek
    split
    next htuple =>
      refine Or.inr ⟨?_, rfl, rfl⟩
      intro w _ c h
      obtain rfl := hunique w c h
      exact htuple h.2.2.1
    next htuple =>
      split
      next htrusted =>
        refine Or.inr ⟨?_, rfl, rfl⟩
        intro w hw c h
        obtain rfl := hunique w c h
        obtain rfl := h.2.1
        exact htrusted hw
      next htrusted =>
        split
        next hdoc =>
          refine Or.inr ⟨?_, rfl, rfl⟩
          intro w _ c h
          obtain rfl := hunique w c h
          obtain ⟨-, rfl, -, doc, hsome, -⟩ := h
          rw [hdoc] at hsome
          cases hsome
        next doc hdoc =>
          split
          next e he =>
            refine Or.inr ⟨?_, rfl, rfl⟩
            intro w _ c h
            obtain rfl := hunique w c h
            obtain ⟨-, rfl, -, doc', hsome, hok⟩ := h
            obtain rfl := Option.some.inj (hdoc.symm.trans hsome)
            rw [he] at hok
            cases hok
          next cosig hcosig =>
            have hparse := verifyWitnessCosignatureValue_ok env checkpoint now value doc _ cosig hcosig
            obtain rfl : cosig = peek := by
              rw [hparse] at hpeek
              exact Except.ok.inj hpeek
            exact Or.inl ⟨cosig, not_not.mp htrusted, ⟨hparse, rfl, not_not.mp htuple, doc, hdoc, hcosig⟩,
              rfl, rfl⟩

theorem mem_verified_countCosignature (tally : Tally) (value : Json) (w : String) :
    w ∈ (countCosignature env docs trusted checkpoint policy now tally value).verified ↔
      w ∈ tally.verified ∨ (w ∈ trusted ∧ ∃ c, Attests env docs checkpoint policy now value w c) := by
  rcases countCosignature_cases env docs trusted checkpoint policy now tally value with
    ⟨c, htrusted, hattests, hverified, -⟩ | ⟨hnone, hverified, -⟩
  · rw [hverified, ExtTreeSet.mem_insert, Std.LawfulEqCmp.compare_eq_iff_eq]
    constructor
    · rintro (rfl | h)
      · exact Or.inr ⟨htrusted, c, hattests⟩
      · exact Or.inl h
    · rintro (h | ⟨-, c', hc'⟩)
      · exact Or.inr h
      · refine Or.inl ?_
        rw [← hc'.2.1, Except.ok.inj (hattests.1.symm.trans hc'.1)]
  · rw [hverified]
    constructor
    · exact Or.inl
    · rintro (h | ⟨hw, c, hc⟩)
      · exact h
      · exact absurd hc (hnone w hw c)

theorem mem_fresh_countCosignature (tally : Tally) (value : Json) (w : String) :
    w ∈ (countCosignature env docs trusted checkpoint policy now tally value).fresh ↔
      w ∈ tally.fresh ∨ (w ∈ trusted ∧
        ∃ c, Attests env docs checkpoint policy now value w c ∧ policy.withinAge c now = true) := by
  rcases countCosignature_cases env docs trusted checkpoint policy now tally value with
    ⟨c, htrusted, hattests, -, hfresh⟩ | ⟨hnone, -, hfresh⟩
  · have hunique (c' : LogCosignature) (h : Attests env docs checkpoint policy now value w c') : c' = c :=
      Except.ok.inj (h.1.symm.trans hattests.1)
    rw [hfresh]
    by_cases hage : policy.withinAge c now = true
    · rw [if_pos hage, ExtTreeSet.mem_insert, Std.LawfulEqCmp.compare_eq_iff_eq]
      constructor
      · rintro (rfl | h)
        · exact Or.inr ⟨htrusted, c, hattests, hage⟩
        · exact Or.inl h
      · rintro (h | ⟨-, c', hc', -⟩)
        · exact Or.inr h
        · refine Or.inl ?_
          rw [← hc'.2.1, hunique c' hc']
    · rw [if_neg hage]
      constructor
      · exact Or.inl
      · rintro (h | ⟨-, c', hc', hage'⟩)
        · exact h
        · rw [hunique c' hc'] at hage'
          exact absurd hage' hage
  · rw [hfresh]
    constructor
    · exact Or.inl
    · rintro (h | ⟨hw, c, hc, -⟩)
      · exact h
      · exact absurd hc (hnone w hw c)

theorem foldl_accumulates {σ β : Type} (step : σ → β → σ) (member : σ → Prop) (adds : β → Prop)
    (hstep : ∀ s b, member (step s b) ↔ member s ∨ adds b) (l : List β) (s : σ) :
    member (l.foldl step s) ↔ member s ∨ ∃ b ∈ l, adds b := by
  induction l generalizing s with
  | nil => simp
  | cons b rest ih => simp only [List.foldl_cons, ih, hstep, List.mem_cons, exists_eq_or_imp, or_assoc]

theorem mem_verified_iff (cosignatures : List Json) (w : String) :
    w ∈ (tallyOf env docs trusted checkpoint policy now cosignatures).verified ↔
      w ∈ trusted ∧ ∃ value ∈ cosignatures, ∃ c, Attests env docs checkpoint policy now value w c := by
  rw [tallyOf, foldl_accumulates _ (fun tally => w ∈ tally.verified) _
    (fun tally value => mem_verified_countCosignature env docs trusted checkpoint policy now tally value w)]
  constructor
  · rintro (h | ⟨value, hvalue, hw, hc⟩)
    · exact absurd h ExtTreeSet.not_mem_empty
    · exact ⟨hw, value, hvalue, hc⟩
  · rintro ⟨hw, value, hvalue, hc⟩
    exact Or.inr ⟨value, hvalue, hw, hc⟩

theorem mem_fresh_iff (cosignatures : List Json) (w : String) :
    w ∈ (tallyOf env docs trusted checkpoint policy now cosignatures).fresh ↔
      w ∈ trusted ∧ ∃ value ∈ cosignatures,
        ∃ c, Attests env docs checkpoint policy now value w c ∧ policy.withinAge c now = true := by
  rw [tallyOf, foldl_accumulates _ (fun tally => w ∈ tally.fresh) _
    (fun tally value => mem_fresh_countCosignature env docs trusted checkpoint policy now tally value w)]
  constructor
  · rintro (h | ⟨value, hvalue, hw, hc⟩)
    · exact absurd h ExtTreeSet.not_mem_empty
    · exact ⟨hw, value, hvalue, hc⟩
  · rintro ⟨hw, value, hvalue, hc⟩
    exact Or.inr ⟨value, hvalue, hw, hc⟩

theorem size_le_of_subset (a b : ExtTreeSet String) (h : ∀ k, k ∈ a → k ∈ b) : a.size ≤ b.size := by
  rw [← ExtTreeSet.length_toList, ← ExtTreeSet.length_toList]
  have hnodup : a.toList.Nodup :=
    (ExtTreeSet.distinct_toList (t := a)).imp (fun hne heq => hne (Std.LawfulEqCmp.compare_eq_iff_eq.mpr heq))
  refine (hnodup.subperm ?_).length_le
  intro k hk
  exact ExtTreeSet.mem_toList.mpr (h k (ExtTreeSet.mem_toList.mp hk))

theorem sorted_toList (t : ExtTreeSet String) : t.toList.Pairwise (fun a b => compare a b = .lt) :=
  ExtTreeSet.ordered_toList

theorem tallyOf_congr (cosignatures cosignatures' : List Json)
    (h : ∀ value, value ∈ cosignatures' ↔ value ∈ cosignatures) :
    (tallyOf env docs trusted checkpoint policy now cosignatures').verified =
        (tallyOf env docs trusted checkpoint policy now cosignatures).verified ∧
      (tallyOf env docs trusted checkpoint policy now cosignatures').fresh =
        (tallyOf env docs trusted checkpoint policy now cosignatures).fresh := by
  constructor
  · apply ExtTreeSet.ext_mem
    intro w
    simp only [mem_verified_iff, h]
  · apply ExtTreeSet.ext_mem
    intro w
    simp only [mem_fresh_iff, h]

/-- The report names and counts exactly the trusted witnesses with a cosignature that verifies, and counts
as fresh exactly those with one within the age. -/
theorem witness_quorum_exact (cosignatures : List Json) :
    let evaluate := evaluateWitnessQuorum env docs trusted checkpoint policy now
    (∀ w, w ∈ (evaluate cosignatures).witnesses ↔
        w ∈ trusted ∧ ∃ value ∈ cosignatures, ∃ c, Attests env docs checkpoint policy now value w c) ∧
      (evaluate cosignatures).witnesses.Pairwise (fun a b => compare a b = .lt) ∧
      (evaluate cosignatures).witnessedCount = (evaluate cosignatures).witnesses.length ∧
      (∃ fresh : List String, fresh.Pairwise (fun a b => compare a b = .lt) ∧
        (evaluate cosignatures).freshWitnessedCount = fresh.length ∧
        ∀ w, w ∈ fresh ↔ w ∈ trusted ∧ ∃ value ∈ cosignatures,
          ∃ c, Attests env docs checkpoint policy now value w c ∧ policy.withinAge c now = true) ∧
      (evaluate cosignatures).freshWitnessedCount ≤ (evaluate cosignatures).witnessedCount ∧
      (∀ cosignatures', (∀ value, value ∈ cosignatures' ↔ value ∈ cosignatures) →
        (evaluate cosignatures').witnesses = (evaluate cosignatures).witnesses ∧
        (evaluate cosignatures').witnessedCount = (evaluate cosignatures).witnessedCount ∧
        (evaluate cosignatures').freshWitnessedCount = (evaluate cosignatures).freshWitnessedCount) ∧
      ∀ more, (evaluate cosignatures).witnessedCount ≤ (evaluate (cosignatures ++ more)).witnessedCount ∧
        (evaluate cosignatures).freshWitnessedCount ≤
        (evaluate (cosignatures ++ more)).freshWitnessedCount := by
  intro evaluate
  refine ⟨?_, sorted_toList _, ExtTreeSet.length_toList.symm, ?_, ?_, ?_, ?_⟩
  · intro w
    exact ExtTreeSet.mem_toList.trans (mem_verified_iff env docs trusted checkpoint policy now cosignatures w)
  · refine ⟨_, sorted_toList _, ExtTreeSet.length_toList.symm, fun w => ?_⟩
    exact ExtTreeSet.mem_toList.trans (mem_fresh_iff env docs trusted checkpoint policy now cosignatures w)
  · apply size_le_of_subset
    intro w hw
    obtain ⟨htrusted, value, hvalue, c, hc, -⟩ :=
      (mem_fresh_iff env docs trusted checkpoint policy now cosignatures w).mp hw
    exact (mem_verified_iff env docs trusted checkpoint policy now cosignatures w).mpr
      ⟨htrusted, value, hvalue, c, hc⟩
  · intro cosignatures' h
    obtain ⟨hverified, hfresh⟩ :=
      tallyOf_congr env docs trusted checkpoint policy now cosignatures cosignatures' h
    exact ⟨congrArg ExtTreeSet.toList hverified, congrArg ExtTreeSet.size hverified,
      congrArg ExtTreeSet.size hfresh⟩
  · intro more
    constructor
    · apply size_le_of_subset
      intro w hw
      rw [mem_verified_iff] at hw ⊢
      obtain ⟨htrusted, value, hvalue, hc⟩ := hw
      exact ⟨htrusted, value, List.mem_append_left _ hvalue, hc⟩
    · apply size_le_of_subset
      intro w hw
      rw [mem_fresh_iff] at hw ⊢
      obtain ⟨htrusted, value, hvalue, hc⟩ := hw
      exact ⟨htrusted, value, List.mem_append_left _ hvalue, hc⟩

end Exact

end Acdp.Client
