import Acdp.Chain.SealedSnapshots
import Acdp.Client.Retrieve
import Acdp.Crypto.Binding
import Mathlib.Data.List.ReduceOption

namespace Acdp.Client

open Acdp.Types
open Acdp.Crypto
open Acdp.Foundation.Entries (bind_ok)
open Acdp.Validation (PublishEnv)

section Keys

variable (env : Env) (signature : Signature)

def fragmentKey (resolver : WebResolver) : Option KeyBytes := do
  let (did, fragment) ← Text.splitOnceChar '#' signature.keyId
  let doc ← (resolver.resolveWithFragment did fragment).toOption
  methodKey env (← doc.findByFragment fragment) signature.algorithm

def publicKey : KeyBytes → Option (List UInt8)
  | .ed25519 key => some key.toList
  | .p256 sec1 => (env.p256Compressed sec1).toOption

theorem keyFingerprint_ok_iff (key : KeyBytes) (fp : String) :
    keyFingerprint env key = .ok fp ↔ ∃ bytes, publicKey env key = some bytes ∧
      encodeSha256Hex (env.sha256 bytes) = fp := by
  cases key with
  | ed25519 key => simp [keyFingerprint, publicKey, fingerprintEd25519]
  | p256 sec1 =>
    rw [keyFingerprint, publicKey, fingerprintP256Sec1]
    cases env.p256Compressed sec1 with
    | error e => simp [Except.toOption]
    | ok compressed => simp [Except.toOption]

def IsDidWeb (keyId : String) : Prop :=
  ∃ didPart fragment, Text.splitOnceChar '#' keyId = some (didPart, fragment) ∧
    Text.hasPrefix "did:web:" didPart = true

theorem not_didKey_of_didWeb (did : String) (h : Text.hasPrefix "did:web:" did = true) :
    Text.hasPrefix "did:key:" did = false := by
  rw [Text.hasPrefix, List.isPrefixOf_iff_prefix] at h
  rw [Text.hasPrefix, ← Bool.not_eq_true, List.isPrefixOf_iff_prefix]
  intro hkey
  have hsame := List.prefix_of_prefix_length_le h hkey (by decide)
  exact absurd hsame (by decide)

theorem fingerprint_of_fragmentKey (hdid : IsDidWeb signature.keyId) (resolver : WebResolver) (fp : String)
    (h : fingerprintForKeyId env signature.keyId signature.algorithm resolver = .ok fp) :
    ∃ key, fragmentKey env signature resolver = some key ∧ keyFingerprint env key = .ok fp := by
  obtain ⟨didPart, fragment, hsplit, hweb⟩ := hdid
  rw [fingerprintForKeyId, hsplit] at h
  dsimp only at h
  rw [not_didKey_of_didWeb didPart hweb, if_neg (by decide)] at h
  obtain ⟨doc, hdoc, h⟩ := bind_ok _ _ _ h
  cases hfind : doc.findByFragment fragment with
  | none =>
    rw [hfind] at h
    cases h
  | some method =>
    rw [hfind] at h
    dsimp only at h
    cases hkey : methodKey env method signature.algorithm with
    | none =>
      exfalso
      rw [methodKey] at hkey
      rw [fingerprintVerificationMethod] at h
      split_ifs at h hkey
      · obtain ⟨key, hm, -⟩ := bind_ok _ _ _ h
        rw [hm] at hkey
        cases hkey
      · obtain ⟨sec1, hm, -⟩ := bind_ok _ _ _ h
        rw [hm] at hkey
        cases hkey
    | some key =>
      refine ⟨key, ?_, ?_⟩
      · rw [fragmentKey, hsplit]
        simp [hdoc, Except.toOption, hfind, hkey]
      · rw [← fingerprintVerificationMethod_eq env method signature.algorithm key hkey]
        exact h

theorem verifyBodySignatureHistorical_ok (body : Body) (resolver : WebResolver)
    (h : verifyBodySignatureHistorical env body resolver = .ok ()) :
    ∃ key, fragmentKey env body.signature resolver = some key ∧
      verifyUnder env body.signature body.contentHash key = .ok () := by
  rw [verifyBodySignatureHistorical] at h
  cases hsplit : Text.splitOnceChar '#' body.signature.keyId with
  | none =>
    rw [hsplit] at h
    cases h
  | some parts =>
    obtain ⟨didPart, fragment⟩ := parts
    simp only [hsplit, Foundation.Entries.seq_ok_iff, Foundation.Entries.guard_ok_iff] at h
    obtain ⟨-, -, -, h⟩ := h
    obtain ⟨doc, hdoc, h⟩ := bind_ok _ _ _ h
    have hresolved : resolver.resolveWithFragment didPart fragment = .ok doc := by
      rw [historicalLookup] at hdoc
      split at hdoc
      · cases hdoc
      · exact hdoc
    cases hfind : doc.findByFragment fragment with
    | none =>
      rw [hfind] at h
      cases h
    | some method =>
      rw [hfind] at h
      obtain ⟨key, hkey, hverify⟩ := verifySignatureWithMethod_ok env method body.signature body.contentHash h
      refine ⟨key, ?_, hverify⟩
      rw [fragmentKey, hsplit]
      simp [hresolved, Except.toOption, hfind, hkey]

end Keys

section Phases

variable (env : PublishEnv) (policy : VerificationPolicy) (ctx : FullContext) (expectedCtxId : CtxId)
  (servingAuthority : String) (lookups : Lookups)

def verifiedUnder : KeyAuthorization → Option KeyBytes
  | .currentlyAuthorized => envelopeSigner env.toEnv ctx.body.signature lookups.currentKey
  | .historicallyAuthorized => fragmentKey env.toEnv ctx.body.signature lookups.historicalKey
  | .historicallyAuthorizedPreCompromise => fragmentKey env.toEnv ctx.body.signature lookups.historicalKey

def checkedReceipt : Option PlacedReceipt := do
  let outcome ← (receiptPhase env policy ctx expectedCtxId servingAuthority lookups).toOption
  (← outcome).toOption

def asksForReceipt : Bool := policy.receipts != .ignore && ctx.registryReceipt.isSome

/-- The keys that the documents answered to the lookups of a call list under the fragment of the signature. -/
def answeredKeys (gathered : Gathered) : List KeyBytes :=
  ([envelopeSigner env.toEnv ctx.body.signature lookups.currentKey] ++
    (if gathered.hasInScope then [fragmentKey env.toEnv ctx.body.signature lookups.revocationKey] else []) ++
    (if asksForReceipt policy ctx then
      [fragmentKey env.toEnv ctx.body.signature lookups.receiptKey,
        fragmentKey env.toEnv ctx.body.signature lookups.historicalKey]
    else [])).reduceOption

def OneListedKey (gathered : Gathered) : Prop :=
  ∀ a ∈ answeredKeys env policy ctx lookups gathered, ∀ b ∈ answeredKeys env policy ctx lookups gathered,
    publicKey env.toEnv a = publicKey env.toEnv b

/-- The key that verified has the fingerprint of the receipt, and the one that was given to `decide`. -/
def OneKey (gathered : Gathered) (phases : KeyPhases) : Prop :=
  ∃ key, verifiedUnder env ctx lookups phases.keyStatus = some key ∧
    verifyUnder env.toEnv ctx.body.signature ctx.body.contentHash key = .ok () ∧
    (∀ receipt, phases.verifiedReceipt = some receipt →
      keyFingerprint env.toEnv key = .ok receipt.keyFingerprint) ∧
    (gathered.hasInScope = true → ∃ fp, revocationFingerprint env ctx lookups gathered = .ok (some fp) ∧
      keyFingerprint env.toEnv key = .ok fp)

theorem acdpResult_ok {α : Type} (x : Except AcdpError α) (a : α) (h : acdpResult x = .ok a) : x = .ok a := by
  cases x with
  | error e => cases h
  | ok b => exact congrArg Except.ok (Except.ok.inj h)

theorem verifySignatureEnvelope_agent (env : Env) (agentId : AgentDid) (signature : Signature)
    (hash : ContentHash) (resolver : WebResolver)
    (h : verifySignatureEnvelope env agentId signature hash resolver = .ok ()) :
    ∃ fragment, Text.splitOnceChar '#' signature.keyId = some (agentId, fragment) := by
  rw [verifySignatureEnvelope] at h
  cases hsplit : Text.splitOnceChar '#' signature.keyId with
  | none =>
    rw [hsplit] at h
    cases h
  | some parts =>
    obtain ⟨didPart, fragment⟩ := parts
    simp only [hsplit, Foundation.Entries.seq_ok_iff, Foundation.Entries.guard_ok_iff] at h
    obtain ⟨-, -, hagent, -⟩ := h
    rw [not_not] at hagent
    exact ⟨fragment, by rw [hagent]⟩

theorem signaturePhase_ok (hdid : IsDidWeb ctx.body.signature.keyId) (preCompromise receiptVerified : Bool)
    (status : KeyAuthorization)
    (h : signaturePhase env policy ctx lookups preCompromise receiptVerified = .ok status) :
    (∃ key, verifiedUnder env ctx lookups status = some key ∧
      verifyUnder env.toEnv ctx.body.signature ctx.body.contentHash key = .ok ()) ∧
      (preCompromise = false → receiptVerified = false → status = .currentlyAuthorized) := by
  cases preCompromise with
  | true =>
    rw [signaturePhase, if_pos rfl] at h
    split at h
    next hagent =>
      -- a `did:key` agent has no `did:web` key id
      exfalso
      obtain ⟨hbody, -⟩ := (Foundation.Entries.seq_ok_iff _ _ _).mp h
      obtain ⟨fragment, hsplit⟩ := verifySignatureEnvelope_agent _ _ _ _ _ hbody
      obtain ⟨didPart, fragment', hsplit', hweb⟩ := hdid
      rw [hsplit] at hsplit'
      obtain ⟨rfl, rfl⟩ := Prod.mk.inj (Option.some.inj hsplit')
      rw [not_didKey_of_didWeb _ hweb] at hagent
      cases hagent
    next =>
      obtain ⟨hbody, hstatus⟩ := (Foundation.Entries.seq_ok_iff _ _ _).mp h
      obtain rfl := Except.ok.inj hstatus
      refine ⟨verifyBodySignatureHistorical_ok env.toEnv ctx.body _ hbody, ?_⟩
      intro hpre
      cases hpre
  | false =>
    rw [signaturePhase, if_neg (by decide)] at h
    cases hbody : verifyBodySignature env.toEnv ctx.body lookups.currentKey with
    | ok u =>
      rw [hbody] at h
      obtain rfl := Except.ok.inj h
      exact ⟨verifySignatureEnvelope_ok _ _ _ _ _ hbody, fun _ _ => rfl⟩
    | error e =>
      rw [hbody] at h
      cases e with
      | keyNotAuthorized why =>
        dsimp only at h
        split at h
        next hverified =>
          simp only [Foundation.Entries.seq_ok_iff] at h
          obtain ⟨hhistorical, hstatus⟩ := h
          obtain rfl := Except.ok.inj hstatus
          refine ⟨verifyBodySignatureHistorical_ok env.toEnv ctx.body _ hhistorical, ?_⟩
          intro _ hreceipt
          rw [hreceipt] at hverified
          cases hverified.2
        · cases h
      | _ => cases h

theorem enforce_ok (env : Env) (a b : RevocationAssessment) (h : a.enforce env = .ok b) : b = a := by
  rw [RevocationAssessment.enforce] at h
  repeat' split at h
  all_goals cases h
  all_goals rfl

theorem decide_not_preCompromise (gathered : Gathered) (fp : Option String) (acceptHistorical : Bool) :
    (decide gathered fp none acceptHistorical).preCompromise = false := by
  rw [decide]
  dsimp only
  rw [Option.any_map, Option.any_eq_false]
  intro r _
  rfl

theorem keyPhases_ok (hdid : IsDidWeb ctx.body.signature.keyId) (gathered : Gathered) (phases : KeyPhases)
    (h : keyPhases env policy ctx expectedCtxId servingAuthority lookups gathered = .ok phases) :
    (∃ fp, revocationFingerprint env ctx lookups gathered = .ok fp) ∧
    phases.verifiedReceipt =
      (checkedReceipt env policy ctx expectedCtxId servingAuthority lookups).map (·.receipt) ∧
    (∃ key, verifiedUnder env ctx lookups phases.keyStatus = some key ∧
      verifyUnder env.toEnv ctx.body.signature ctx.body.contentHash key = .ok ()) ∧
    (checkedReceipt env policy ctx expectedCtxId servingAuthority lookups = none →
      phases.keyStatus = .currentlyAuthorized) := by
  rw [keyPhases] at h
  obtain ⟨outcome, houtcome, h⟩ := bind_ok _ _ _ h
  obtain ⟨fp, hfp, h⟩ := bind_ok _ _ _ h
  obtain ⟨revocation, hrevocation, h⟩ := bind_ok _ _ _ h
  obtain ⟨status, hstatus, h⟩ := bind_ok _ _ _ h
  obtain rfl := Except.ok.inj h
  have hplaced : checkedReceipt env policy ctx expectedCtxId servingAuthority lookups =
      outcome.bind (fun outcome => outcome.toOption) := by
    rw [checkedReceipt, acdpResult_ok _ _ houtcome]
    rfl
  obtain ⟨hkey, hcurrent⟩ :=
    signaturePhase_ok env policy ctx lookups hdid _ _ status (acdpResult_ok _ _ hstatus)
  refine ⟨⟨fp, acdpResult_ok _ _ hfp⟩, by rw [hplaced], hkey, fun hnone => ?_⟩
  rw [hnone] at hplaced
  rw [enforce_ok _ _ _ hrevocation, ← hplaced] at hcurrent
  exact hcurrent (decide_not_preCompromise gathered fp _) rfl

theorem crossCheck_fingerprint (receipt : RegistryReceipt) (expectedCtxId : CtxId)
    (hash : ContentHash) (fp : String) (h : receipt.crossCheck expectedCtxId hash fp = .ok ()) :
    receipt.keyFingerprint = fp := by
  rw [RegistryReceipt.crossCheck] at h
  split at h
  · cases h
  split at h
  · cases h
  split at h
  · cases h
  next hfp => exact not_not.mp hfp

theorem verifyReceiptPlaced_fingerprint (env : Env) (value : Json) (expectedCtxId : CtxId) (body : Body)
    (hash : ContentHash) (fp servingAuthority : String) (resolver : WebResolver) (placed : PlacedReceipt)
    (h : verifyReceiptPlaced env value expectedCtxId body hash fp servingAuthority resolver = .ok placed) :
    placed.receipt.keyFingerprint = fp := by
  rw [verifyReceiptPlaced] at h
  obtain ⟨receipt, -, h⟩ := bind_ok _ _ _ h
  obtain ⟨-, -, h⟩ := bind_ok _ _ _ h
  simp only [Foundation.Entries.guard_ok_iff] at h
  obtain ⟨-, h⟩ := h
  obtain ⟨hcross, h⟩ := (Foundation.Entries.seq_ok_iff _ _ _).mp h
  obtain ⟨-, h⟩ := (Foundation.Entries.seq_ok_iff _ _ _).mp h
  have hfp := crossCheck_fingerprint receipt expectedCtxId hash fp hcross
  split at h
  · cases h
  · simp only [Foundation.Entries.guard_ok_iff] at h
    obtain ⟨-, h⟩ := h
    obtain ⟨⟨method, keyStatus⟩, -, h⟩ := bind_ok _ _ _ h
    obtain ⟨rawHash, -, h⟩ := bind_ok _ _ _ h
    obtain ⟨-, h⟩ := (Foundation.Entries.seq_ok_iff _ _ _).mp h
    obtain ⟨fingerprint, -, h⟩ := bind_ok _ _ _ h
    obtain rfl := Except.ok.inj h
    exact hfp

theorem checkedReceipt_fingerprint (hdid : IsDidWeb ctx.body.signature.keyId) (placed : PlacedReceipt)
    (h : checkedReceipt env policy ctx expectedCtxId servingAuthority lookups = some placed) :
    ∃ key, fragmentKey env.toEnv ctx.body.signature lookups.receiptKey = some key ∧
      keyFingerprint env.toEnv key = .ok placed.receipt.keyFingerprint := by
  rw [checkedReceipt] at h
  obtain ⟨outcome, houtcome, h⟩ := Option.bind_eq_some_iff.mp h
  obtain ⟨verdict, rfl, h⟩ := Option.bind_eq_some_iff.mp h
  cases verdict with
  | error e => cases h
  | ok placed' =>
    obtain rfl := Option.some.inj h
    have hphase : receiptPhase env policy ctx expectedCtxId servingAuthority lookups =
        .ok (some (.ok placed')) := by
      cases hp : receiptPhase env policy ctx expectedCtxId servingAuthority lookups with
      | error e =>
        rw [hp] at houtcome
        cases houtcome
      | ok outcome =>
        rw [hp] at houtcome
        exact congrArg Except.ok (Option.some.inj houtcome)
    rw [receiptPhase] at hphase
    split at hphase
    · cases hphase
    · cases hphase
    · cases hphase
    next value _ =>
      obtain ⟨fp, hfp, hphase⟩ := bind_ok _ _ _ hphase
      obtain ⟨key, hkey, hprint⟩ := fingerprint_of_fragmentKey env.toEnv ctx.body.signature hdid _ _ hfp
      refine ⟨key, hkey, ?_⟩
      split at hphase
      next placed'' hplaced =>
        obtain rfl := Except.ok.inj (Option.some.inj (Except.ok.inj hphase))
        rw [verifyReceiptPlaced_fingerprint _ _ _ _ _ _ _ _ _ hplaced, hprint]
      next e _ =>
        split at hphase
        · cases hphase
        · cases hphase

theorem revocationFingerprint_key (hdid : IsDidWeb ctx.body.signature.keyId) (gathered : Gathered)
    (hscope : gathered.hasInScope = true) (asked : Option String)
    (h : revocationFingerprint env ctx lookups gathered = .ok asked) :
    ∃ fp key, asked = some fp ∧ fragmentKey env.toEnv ctx.body.signature lookups.revocationKey = some key ∧
      keyFingerprint env.toEnv key = .ok fp := by
  rw [revocationFingerprint, if_pos hscope] at h
  cases hfp : fingerprintForKeyId env.toEnv ctx.body.signature.keyId ctx.body.signature.algorithm
      lookups.revocationKey with
  | error e =>
    rw [hfp] at h
    cases h
  | ok fp =>
    rw [hfp] at h
    obtain ⟨key, hkey, hprint⟩ := fingerprint_of_fragmentKey env.toEnv ctx.body.signature hdid _ _ hfp
    exact ⟨fp, key, (Except.ok.inj h).symm, hkey, hprint⟩

def FingerprintsInjective (keys : List KeyBytes) : Prop :=
  ∀ a ∈ keys, ∀ b ∈ keys, ∀ fp, keyFingerprint env.toEnv a = .ok fp → keyFingerprint env.toEnv b = .ok fp →
    publicKey env.toEnv a = publicKey env.toEnv b

theorem asksForReceipt_of_checkedReceipt (placed : PlacedReceipt)
    (h : checkedReceipt env policy ctx expectedCtxId servingAuthority lookups = some placed) :
    asksForReceipt policy ctx = true := by
  rw [checkedReceipt] at h
  obtain ⟨outcome, houtcome, h⟩ := Option.bind_eq_some_iff.mp h
  rw [receiptPhase] at houtcome
  split at houtcome
  · obtain rfl := Option.some.inj houtcome
    cases h
  · cases houtcome
  · obtain rfl := Option.some.inj houtcome
    cases h
  next hvalue hignore =>
    rw [asksForReceipt, hvalue, Option.isSome_some, Bool.and_true, bne_iff_ne]
    exact hignore

section Answered

variable (gathered : Gathered)

theorem current_answered (key : KeyBytes)
    (h : envelopeSigner env.toEnv ctx.body.signature lookups.currentKey = some key) :
    key ∈ answeredKeys env policy ctx lookups gathered := by
  simp [answeredKeys, List.reduceOption_mem_iff, h]

theorem revocation_answered (hscope : gathered.hasInScope = true) (key : KeyBytes)
    (h : fragmentKey env.toEnv ctx.body.signature lookups.revocationKey = some key) :
    key ∈ answeredKeys env policy ctx lookups gathered := by
  simp [answeredKeys, List.reduceOption_mem_iff, hscope, h]

theorem receipt_answered (hasks : asksForReceipt policy ctx = true) (key : KeyBytes)
    (h : fragmentKey env.toEnv ctx.body.signature lookups.receiptKey = some key ∨
      fragmentKey env.toEnv ctx.body.signature lookups.historicalKey = some key) :
    key ∈ answeredKeys env policy ctx lookups gathered := by
  rw [answeredKeys, hasks, if_pos rfl, List.reduceOption_mem_iff]
  rcases h with h | h <;> simp [h]

end Answered

theorem keyFingerprint_congr (env : Env) (a b : KeyBytes) (fp : String)
    (h : publicKey env a = publicKey env b) (ha : keyFingerprint env a = .ok fp) :
    keyFingerprint env b = .ok fp := by
  rw [keyFingerprint_ok_iff] at ha ⊢
  rw [← h]
  exact ha

theorem verifiedUnder_answered (gathered : Gathered) (phases : KeyPhases) (key : KeyBytes)
    (hcurrent : checkedReceipt env policy ctx expectedCtxId servingAuthority lookups = none →
      phases.keyStatus = .currentlyAuthorized)
    (hkey : verifiedUnder env ctx lookups phases.keyStatus = some key) :
    key ∈ answeredKeys env policy ctx lookups gathered := by
  cases hplaced : checkedReceipt env policy ctx expectedCtxId servingAuthority lookups with
  | none =>
    rw [hcurrent hplaced] at hkey
    exact current_answered env policy ctx lookups gathered key hkey
  | some placed =>
    have hasks := asksForReceipt_of_checkedReceipt env policy ctx expectedCtxId servingAuthority lookups
      placed hplaced
    cases hstatus : phases.keyStatus with
    | currentlyAuthorized =>
      rw [hstatus] at hkey
      exact current_answered env policy ctx lookups gathered key hkey
    | _ =>
      rw [hstatus] at hkey
      exact receipt_answered env policy ctx lookups gathered hasks key (.inr hkey)

theorem oneKey_of_oneListedKey (hdid : IsDidWeb ctx.body.signature.keyId) (gathered : Gathered)
    (phases : KeyPhases) (hone : OneListedKey env policy ctx lookups gathered)
    (h : keyPhases env policy ctx expectedCtxId servingAuthority lookups gathered = .ok phases) :
    OneKey env ctx lookups gathered phases := by
  obtain ⟨⟨asked, hasked⟩, hreceipt, ⟨key, hkey, hverify⟩, hcurrent⟩ :=
    keyPhases_ok env policy ctx expectedCtxId servingAuthority lookups hdid gathered phases h
  have hlisted := verifiedUnder_answered env policy ctx expectedCtxId servingAuthority lookups
    gathered phases key hcurrent hkey
  refine ⟨key, hkey, hverify, fun receipt hr => ?_, fun hscope => ?_⟩
  · rw [hreceipt] at hr
    obtain ⟨placed, hplaced, rfl⟩ := Option.map_eq_some_iff.mp hr
    have hasks := asksForReceipt_of_checkedReceipt env policy ctx expectedCtxId servingAuthority lookups
      placed hplaced
    obtain ⟨other, hother, hfp⟩ :=
      checkedReceipt_fingerprint env policy ctx expectedCtxId servingAuthority lookups hdid placed hplaced
    have hanswered := receipt_answered env policy ctx lookups gathered hasks other (.inl hother)
    exact keyFingerprint_congr env.toEnv other key _ (hone other hanswered key hlisted) hfp
  · obtain ⟨fp, other, rfl, hother, hfp⟩ :=
      revocationFingerprint_key env ctx lookups hdid gathered hscope asked hasked
    have hanswered := revocation_answered env policy ctx lookups gathered hscope other hother
    exact ⟨fp, hasked, keyFingerprint_congr env.toEnv other key _ (hone other hanswered key hlisted) hfp⟩

theorem oneListedKey_of_oneKey (hdid : IsDidWeb ctx.body.signature.keyId) (gathered : Gathered)
    (phases : KeyPhases) (hasks : asksForReceipt policy ctx = false)
    (hinj : FingerprintsInjective env (answeredKeys env policy ctx lookups gathered))
    (h : keyPhases env policy ctx expectedCtxId servingAuthority lookups gathered = .ok phases)
    (hone : OneKey env ctx lookups gathered phases) : OneListedKey env policy ctx lookups gathered := by
  obtain ⟨⟨asked, hasked⟩, -, -, hcurrent⟩ :=
    keyPhases_ok env policy ctx expectedCtxId servingAuthority lookups hdid gathered phases h
  obtain ⟨key, hkey, -, -, hrevoked⟩ := hone
  have hnone : checkedReceipt env policy ctx expectedCtxId servingAuthority lookups = none := by
    cases hplaced : checkedReceipt env policy ctx expectedCtxId servingAuthority lookups with
    | none => rfl
    | some placed =>
      have := asksForReceipt_of_checkedReceipt env policy ctx expectedCtxId servingAuthority lookups
        placed hplaced
      rw [hasks] at this
      cases this
  rw [hcurrent hnone] at hkey
  have hkey : envelopeSigner env.toEnv ctx.body.signature lookups.currentKey = some key := hkey
  have hlisted := current_answered env policy ctx lookups gathered key hkey
  have hall : ∀ a ∈ answeredKeys env policy ctx lookups gathered,
      publicKey env.toEnv a = publicKey env.toEnv key := by
    intro a ha
    have hmem := ha
    rw [answeredKeys, hasks, if_neg Bool.false_ne_true, List.append_nil, List.reduceOption_mem_iff,
      List.mem_append, List.mem_singleton, hkey] at hmem
    rcases hmem with hmem | hmem
    · rw [Option.some.inj hmem]
    · split at hmem
      next hscope =>
        obtain ⟨fp, hfp, hprint⟩ := hrevoked hscope
        obtain ⟨fp', other, hsome, hother, hotherFp⟩ :=
          revocationFingerprint_key env ctx lookups hdid gathered hscope _ hfp
        obtain rfl := Option.some.inj hsome
        rw [List.mem_singleton, hother] at hmem
        obtain rfl := Option.some.inj hmem
        exact hinj a ha key hlisted _ hotherFp hprint
      next => cases hmem
  intro a ha b hb
  rw [hall a ha, hall b hb]

theorem verifyRetrieved_ok (gathered : Gathered) (keyless : Except ClientError KeyPhases)
    (transparency : KeyPhases → Except ClientError Unit) (retrieved : Retrieved)
    (h : verifyRetrieved env policy ctx expectedCtxId servingAuthority lookups gathered keyless transparency =
      .ok retrieved) :
    (if isKeylessKeyId ctx.body.signature.keyId then keyless
      else keyPhases env policy ctx expectedCtxId servingAuthority lookups gathered) =
      .ok retrieved.toKeyPhases := by
  rw [verifyRetrieved] at h
  obtain ⟨-, h⟩ := (Foundation.Entries.seq_ok_iff _ _ _).mp h
  obtain ⟨phases, hphases, h⟩ := bind_ok _ _ _ h
  obtain ⟨-, h⟩ := (Foundation.Entries.seq_ok_iff _ _ _).mp h
  obtain ⟨-, h⟩ := (Foundation.Entries.seq_ok_iff _ _ _).mp h
  obtain rfl := Except.ok.inj h
  exact hphases

/-- When the documents answered to the lookups of a call list one key, a context is accepted on the
receipt and the revocations of the key that verified; and only then, where no receipt is asked for. -/
theorem accepted_on_one_key (gathered : Gathered) (keyless : Except ClientError KeyPhases)
    (transparency : KeyPhases → Except ClientError Unit) (retrieved : Retrieved)
    (hdid : IsDidWeb ctx.body.signature.keyId) (hkeyless : isKeylessKeyId ctx.body.signature.keyId = false)
    (h : verifyRetrieved env policy ctx expectedCtxId servingAuthority lookups gathered keyless transparency =
      .ok retrieved) :
    (OneListedKey env policy ctx lookups gathered → OneKey env ctx lookups gathered retrieved.toKeyPhases) ∧
    (asksForReceipt policy ctx = false →
      FingerprintsInjective env (answeredKeys env policy ctx lookups gathered) →
      OneKey env ctx lookups gathered retrieved.toKeyPhases →
      OneListedKey env policy ctx lookups gathered) := by
  have hphases := verifyRetrieved_ok env policy ctx expectedCtxId servingAuthority lookups gathered keyless
    transparency retrieved h
  rw [hkeyless, if_neg (by decide)] at hphases
  constructor
  · intro hone
    exact oneKey_of_oneListedKey env policy ctx expectedCtxId servingAuthority lookups hdid gathered
      _ hone hphases
  · intro hasks hinj hone
    exact oneListedKey_of_oneKey env policy ctx expectedCtxId servingAuthority lookups hdid
      gathered _ hasks hinj hphases hone

end Phases

section Rotated

open Acdp.Chain (sampleBody sampleBodyJson sampleCtxId sampleEnv sampleSha256 sampleDigest sampleTime
  sampleFingerprint)

def agentKey : List UInt8 :=
  [126, 200, 211, 236, 14, 118, 176, 53, 134, 116, 219, 126, 232, 149, 238, 61,
    117, 185, 113, 200, 25, 161, 204, 27, 127, 125, 174, 62, 199, 128, 242, 159]

def formerKey : List UInt8 :=
  [69, 29, 222, 255, 50, 124, 147, 114, 123, 52, 178, 158, 72, 189, 138, 74,
    147, 37, 250, 165, 50, 41, 102, 78, 207, 247, 199, 229, 61, 226, 60, 95]

def formerFingerprint : String := "sha256:fe7b60bbb3e6944c5aa217c3a56313573be62de5707eeb0c79418448ceb9f5de"

def rotationEnv : PublishEnv :=
  { sampleEnv with
    sha256 := fun bytes =>
      if bytes = agentKey then sampleDigest "752838c892498092aa20847e9043de321f124afd6a64656f5540b36cc777cd7b"
      else if bytes = formerKey then
        sampleDigest "fe7b60bbb3e6944c5aa217c3a56313573be62de5707eeb0c79418448ceb9f5de"
      else sampleSha256 bytes
    base64UrlDecode := fun x =>
      if x = "fsjT7A52sDWGdNt-6JXuPXW5ccgZocwbf32uPseA8p8" then .ok agentKey
      else if x = "RR3e_zJ8k3J7NLKeSL2KSpMl-qUyKWZOz_fH5T3iPF8" then .ok formerKey
      else .error "Invalid padding"
    verifyEd25519 := fun key signature message =>
      if key.toList = agentKey ∧ signature = sampleBody.signature.value ∧
        message = sampleBody.contentHash then .ok ()
      else .error (.invalidSignature "signature verification failed")
    toRfc3339AutoSi := sampleEnv.fmtRfc3339Ms
    toVecLen := fun _ => 0
    base64Decode := fun _ => .error "Invalid padding"
    requestDeserialize := fun _ => .error "no request"
    debugStr := fun s => "\"" ++ s ++ "\""
    debugAnchor := fun _ => "" }

def agentDocument (x : String) (assertionMethod : List AssertionMethodRef) : DidDocument where
  id := "did:web:agents.example"
  verificationMethods := [{
    id := "did:web:agents.example#k1"
    methodType := "JsonWebKey2020"
    controller := "did:web:agents.example"
    publicKeyJwk := some (.obj [("crv", .str "Ed25519"), ("kty", .str "OKP"), ("x", .str x)])
    publicKeyMultibase := none }]
  assertionMethod := assertionMethod
  services := []

def currentDocument : DidDocument :=
  agentDocument "fsjT7A52sDWGdNt-6JXuPXW5ccgZocwbf32uPseA8p8" [.id "did:web:agents.example#k1"]

def formerDocument : DidDocument := agentDocument "RR3e_zJ8k3J7NLKeSL2KSpMl-qUyKWZOz_fH5T3iPF8" []

def cachingResolver (cached fetched : DidDocument) : WebResolver where
  resolveUntil := fun _ accept => if accept cached then .ok ⟨cached, false⟩ else .ok ⟨fetched, true⟩

def allLookups (resolver : WebResolver) : Lookups := ⟨resolver, resolver, resolver, resolver, resolver⟩

def rotationPolicy : VerificationPolicy := ⟨false, true, .verifyIfPresent, .reject, false, false⟩

def rotationContext : FullContext where
  body := sampleBody
  registryState := ⟨.active, none, none, []⟩
  registryReceipt := none
  lineageHeadReceipt := none
  logInclusion := none
  extensions := []
  rawBody := some sampleBodyJson

theorem compromisedAt_le : 1767225600 ≤ 2000000000 := by decide

def revocationOf (fingerprint : String) : Gathered where
  inScope := [{
    revokedKeyFingerprint := fingerprint
    compromisedSince := sampleTime 1767225600 compromisedAt_le
    ctxId := none
    issuer := "did:web:agents.example"
    revokedKeyController := "did:web:agents.example"
    trustClass := .producerSigned
    source := .known }]
  hints := []
  discovery := none
  complete := true
  registryAttestedChecked := false
  observedAt := none
  onFailure := .failClosed
  unevaluated := []

def rotationRun (lookups : Lookups) (gathered : Gathered) : Except ClientError Retrieved :=
  verifyRetrieved rotationEnv rotationPolicy rotationContext sampleCtxId "registry.example" lookups gathered
    (.error (.acdp (.keyResolution "no keyless support"))) (fun _ => .ok ())

theorem rotationContext_checked : preliminaryChecks rotationEnv rotationPolicy rotationContext sampleCtxId =
    .ok () := by
  decide +kernel

theorem rotationRun_eq (lookups : Lookups) (gathered : Gathered) :
    rotationRun lookups gathered =
      (keyPhases rotationEnv rotationPolicy rotationContext sampleCtxId "registry.example"
        lookups gathered).map (fun phases => { phases with
          lineageBinding := lineageBinding rotationContext.body phases.verifiedReceipt.isSome }) := by
  rw [rotationRun, verifyRetrieved, rotationContext_checked,
    show isKeylessKeyId rotationContext.body.signature.keyId = false by decide +kernel, if_neg (by decide)]
  cases keyPhases rotationEnv rotationPolicy rotationContext sampleCtxId "registry.example"
    lookups gathered with
  | error e => rfl
  | ok phases => rfl

def rotatedLookups : Lookups := allLookups (cachingResolver formerDocument currentDocument)

def steadyLookups : Lookups := allLookups (cachingResolver currentDocument currentDocument)

theorem steadyLookups_oneKey : ∃ retrieved,
    rotationRun steadyLookups (revocationOf formerFingerprint) = .ok retrieved ∧
      OneKey rotationEnv rotationContext steadyLookups
        (revocationOf formerFingerprint) retrieved.toKeyPhases := by
  have hrun : (rotationRun steadyLookups (revocationOf formerFingerprint)).isOk = true := by
    rw [rotationRun_eq]
    decide +kernel
  have hlisted : (answeredKeys rotationEnv rotationPolicy rotationContext steadyLookups
      (revocationOf formerFingerprint)).map (publicKey rotationEnv.toEnv) =
      List.replicate 2 (some agentKey) := by
    decide +kernel
  have hall : ∀ key ∈ answeredKeys rotationEnv rotationPolicy rotationContext steadyLookups
      (revocationOf formerFingerprint), publicKey rotationEnv.toEnv key = some agentKey := by
    intro key hkey
    exact List.eq_of_mem_replicate (hlisted ▸ List.mem_map_of_mem hkey)
  cases h : rotationRun steadyLookups (revocationOf formerFingerprint) with
  | error e =>
    rw [h] at hrun
    cases hrun
  | ok retrieved =>
    refine ⟨retrieved, rfl, ?_⟩
    refine (accepted_on_one_key rotationEnv rotationPolicy rotationContext sampleCtxId "registry.example"
      steadyLookups (revocationOf formerFingerprint) _ _ retrieved ?_ (by decide +kernel) h).1 ?_
    · exact ⟨"did:web:agents.example", "k1", by decide +kernel, by decide +kernel⟩
    · intro a ha b hb
      rw [hall a ha, hall b hb]

theorem rotated_key_escapes_revocation :
    IsDidWeb rotationContext.body.signature.keyId ∧
      isKeylessKeyId rotationContext.body.signature.keyId = false ∧
      FingerprintsInjective rotationEnv
        (answeredKeys rotationEnv rotationPolicy rotationContext rotatedLookups
        (revocationOf sampleFingerprint)) ∧
      ∃ retrieved, rotationRun rotatedLookups (revocationOf sampleFingerprint) = .ok retrieved ∧
        retrieved.keyStatus = .currentlyAuthorized ∧
        ¬ OneKey rotationEnv rotationContext rotatedLookups (revocationOf sampleFingerprint)
          retrieved.toKeyPhases := by
  have hrun : (rotationRun rotatedLookups (revocationOf sampleFingerprint)).toOption.map (·.keyStatus) =
      some .currentlyAuthorized := by
    rw [rotationRun_eq]
    decide +kernel
  have hprints : (answeredKeys rotationEnv rotationPolicy rotationContext rotatedLookups
      (revocationOf sampleFingerprint)).all (fun a =>
      (answeredKeys rotationEnv rotationPolicy rotationContext rotatedLookups
        (revocationOf sampleFingerprint)).all (fun b =>
        a == b || (keyFingerprint rotationEnv.toEnv a).toOption ≠
          (keyFingerprint rotationEnv.toEnv b).toOption)) =
      true := by decide +kernel
  have hsigner : (verifiedUnder rotationEnv rotationContext rotatedLookups .currentlyAuthorized).map
      (fun key => (keyFingerprint rotationEnv.toEnv key).toOption) = some (some sampleFingerprint) := by
    decide +kernel
  have hasked : (revocationFingerprint rotationEnv rotationContext rotatedLookups
      (revocationOf sampleFingerprint)).toOption = some (some formerFingerprint) := by decide +kernel
  refine ⟨⟨"did:web:agents.example", "k1", by decide +kernel, by decide +kernel⟩, by decide +kernel, ?_, ?_⟩
  · intro a ha b hb fp hfp hfp'
    have hpair := List.all_eq_true.mp (List.all_eq_true.mp hprints a ha) b hb
    rw [hfp, hfp'] at hpair
    simp only [ne_eq, not_true_eq_false, decide_false, Bool.or_false, beq_iff_eq] at hpair
    rw [hpair]
  · obtain ⟨retrieved, hretrieved, hstatus⟩ := Option.map_eq_some_iff.mp hrun
    cases h : rotationRun rotatedLookups (revocationOf sampleFingerprint) with
    | error e =>
      rw [h] at hretrieved
      cases hretrieved
    | ok result =>
      rw [h] at hretrieved
      obtain rfl := Option.some.inj hretrieved
      refine ⟨result, rfl, hstatus, ?_⟩
      rintro ⟨key, hkey, -, -, hrevoked⟩
      obtain ⟨fp, hfp, hprint⟩ := hrevoked (by decide)
      rw [hfp] at hasked
      rw [hstatus] at hkey
      rw [hkey, Option.map_some, hprint] at hsigner
      have hformer : fp = formerFingerprint := Option.some.inj (Option.some.inj hasked)
      have hsample : fp = sampleFingerprint := Option.some.inj (Option.some.inj hsigner)
      rw [hformer] at hsample
      exact absurd hsample (by decide +kernel)

end Rotated

end Acdp.Client
