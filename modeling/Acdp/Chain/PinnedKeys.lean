import Acdp.Chain.KeysAsOf
import Acdp.Chain.PinnedSet
import Acdp.Chain.SealedSnapshots
import Acdp.Types.ClosedRoundTrip

namespace Acdp.Chain

open Acdp.Types
open Acdp.Crypto
open Acdp.Foundation
open Acdp.Jcs (FloatFormat tryCanonicalizeValue)
open Std (ExtTreeSet)

section Keys

/-- The same candidate, of a document that may list its members in another order. -/
structure Candidate.Alike (c c' : Candidate) : Prop where
  time : c.time = c'.time
  pinned : c.pinned = c'.pinned
  index : c.index = c'.index
  doc : Option.Rel DidDocument.Alike c.doc c'.doc

variable (env : Env) (hserde : DocumentSerde env)

theorem Candidate.Alike.refl (c : Candidate) : c.Alike c := by
  refine ⟨rfl, rfl, rfl, ?_⟩
  cases c.doc with
  | none => exact .none
  | some doc => exact .some (.refl doc)

section Serde
include hserde

theorem evaluate_eq (did : String) (doc : List (String × Json)) :
    evaluate env did doc =
      (DidDocument.read doc).bind (fun parsed => if parsed.id = did then some parsed else none) := by
  unfold evaluate
  cases hparse : env.didDocumentDeserialize (.obj doc) with
  | ok parsed => rw [(hserde.document doc parsed).mp hparse, Option.bind_some]
  | error e =>
    cases hread : DidDocument.read doc with
    | none => rfl
    | some parsed =>
      rw [(hserde.document doc parsed).mpr hread] at hparse
      cases hparse

theorem evaluate_rel (did : String) (doc doc' : List (String × Json))
    (h : Json.Alike (.obj doc) (.obj doc')) : Option.Rel DidDocument.Alike (evaluate env did doc)
    (evaluate env did doc') := by
  rw [evaluate_eq env hserde, evaluate_eq env hserde]
  refine Related.bind_rel _ _ _ _ (DidDocument.read_rel doc doc' h) (fun parsed parsed' halike => ?_)
  rw [halike.id]
  split
  · exact .some halike
  · exact .none

theorem pinnedFor_rel (did : String) (p p' : PinnedSnapshot × ℕ) (h : p.1.Alike p'.1 ∧ p.2 = p'.2) :
    Option.Rel Candidate.Alike (BundleKeys.pinnedFor env did p) (BundleKeys.pinnedFor env did p') := by
  obtain ⟨⟨hdid, hinstant, hdocument⟩, hindex⟩ := h
  unfold BundleKeys.pinnedFor
  rw [hdid, hinstant, hindex]
  split
  · cases parseTs env p'.1.instant with
    | none => exact .none
    | some time => exact .some ⟨rfl, rfl, rfl, evaluate_rel env hserde _ _ _ hdocument⟩
  · exact .none

theorem candidates_rel (parsed : Parsed) (p p' : Pinned)
    (h : List.Forall₂ PinnedSnapshot.Alike p.snapshots p'.snapshots) (did : String) :
    List.Forall₂ Candidate.Alike ((BundleKeys.new env parsed p).candidates did)
      ((BundleKeys.new env parsed p').candidates did) := by
  rw [BundleKeys.candidates_new, BundleKeys.candidates_new]
  refine List.rel_append (List.forall₂_same.mpr (fun c _ => .refl c)) ?_
  exact Related.filterMap_rel _ _ _ _ (Related.zipIdx_rel _ _ 0 h) (pinnedFor_rel env hserde did)

end Serde

structure SameKeys (keys keys' : BundleKeys) : Prop where
  check : keys'.check env = keys.check env
  hasSnapshot : keys'.hasSnapshot = keys.hasSnapshot
  onlyAfter : keys'.onlyAfter = keys.onlyAfter
  listed : ∀ did t identity, (keys'.document did t).any
      (fun d => ((listedIdentities env d.1).find? (fun l => l.identity == identity)).isSome) =
    (keys.document did t).any
      (fun d => ((listedIdentities env d.1).find? (fun l => l.identity == identity)).isSome)

namespace BundleKeys

variable (keys keys' : BundleKeys)
  (h : ∀ did, List.Forall₂ Candidate.Alike (keys.candidates did) (keys'.candidates did))
include h

theorem select_rel (did : String) (t : Option DateTime) :
    Option.Rel Candidate.Alike (keys.select did t) (keys'.select did t) := by
  refine Related.argmax_reverse_rel _ _ _ _ (Related.filter_rel _ _ _ _ (h did) (fun c c' hc => ?_))
    (fun c c' hc => ?_)
  · rw [hc.time]
  · rw [hc.time, hc.pinned, hc.index]

theorem document_rel (did : String) (t : Option DateTime) :
    Option.Rel (fun d d' => d.1.Alike d'.1 ∧ d.2 = d'.2) (keys.document did t) (keys'.document did t) := by
  refine Related.bind_rel _ _ _ _ (select_rel keys keys' h did t) (fun c c' hc => ?_)
  refine Related.bind_rel _ _ _ _ hc.doc (fun doc doc' hdoc => ?_)
  rw [hc.pinned, hc.time]
  exact .some ⟨hdoc, rfl⟩

theorem check_eq (signature : Signature) (hash : ContentHash) (expectedDid : String) (t : Option DateTime) :
    keys'.check env signature hash expectedDid t = keys.check env signature hash expectedDid t := by
  unfold check
  cases Text.splitOnceChar '#' signature.keyId with
  | none => rfl
  | some p =>
    obtain ⟨did, fragment⟩ := p
    have hdocument := document_rel keys keys' h did t
    dsimp only
    congr 3
    revert hdocument
    generalize keys.document did t = x
    generalize keys'.document did t = y
    intro hdocument
    cases hdocument with
    | none => rfl
    | @some d d' hd =>
      obtain ⟨doc, basis, time⟩ := d
      obtain ⟨doc', basis', time'⟩ := d'
      obtain ⟨hdoc, hrest⟩ := hd
      cases hrest
      have hmethod := hdoc.findByFragment fragment
      dsimp only
      revert hmethod
      generalize doc.findByFragment fragment = x
      generalize doc'.findByFragment fragment = y
      intro hmethod
      cases hmethod with
      | none => rfl
      | some hm =>
        dsimp only
        rw [hm.id, hm.fingerprint env, hm.verify env, hdoc.isAssertionMethod]

theorem sameKeys_of_candidates (hserde : DocumentSerde env) : SameKeys env keys keys' where
  check := by
    funext signature hash did t
    exact check_eq env keys keys' h signature hash did t
  hasSnapshot := by
    funext did t
    exact (Related.isSome_eq _ _ (select_rel keys keys' h did t)).symm
  onlyAfter := by
    funext did t
    rw [onlyAfter, onlyAfter, Related.isEmpty_eq _ _ (h did)]
    congr 1
    exact (Related.all_eq _ _ _ _ (h did) (fun c c' hc => by rw [hc.time])).symm
  listed := by
    intro did t identity
    refine (Related.any_eq _ _ _ _ (document_rel keys keys' h did t) (fun d d' hd => ?_)).symm
    rw [DidDocument.Alike.listedIdentities env hserde hd.1]

end BundleKeys

end Keys

def Engine.repinned (e : Engine) (keys' : BundleKeys) (pinned' : Pinned) : Engine :=
  { e with keys := keys', pinned := pinned' }

namespace Engine

variable (e : Engine) (keys' : BundleKeys) (pinned' : Pinned) (hkeys : SameKeys e.env e.keys keys')
  (hregistries : pinned'.registries = e.pinned.registries)
  (hwitnesses : pinned'.witnesses = e.pinned.witnesses)
  (hvantages : pinned'.vantages = e.pinned.vantages)

section Registries
include hregistries

theorem registryBasis_repinned : (e.repinned keys' pinned').registryBasis = e.registryBasis := by
  funext registryDid
  change (if registryDid ∈ pinned'.registries then _ else _) = _
  rw [hregistries]
  rfl

end Registries

section Events
include hkeys

theorem checkpointSignature_repinned : (e.repinned keys' pinned').checkpointSignature =
    e.checkpointSignature := by
  funext checkpoint raw pass
  unfold checkpointSignature
  simp only [repinned, hkeys.check]

theorem cosignatureVerifies_repinned : (e.repinned keys' pinned').cosignatureVerifies =
    e.cosignatureVerifies := by
  funext checkpoint pass c
  unfold cosignatureVerifies
  simp only [repinned, hkeys.check]

theorem eventStatus_repinned : (e.repinned keys' pinned').eventStatus = e.eventStatus := by
  funext body event raw pass
  unfold eventStatus
  simp only [repinned, hkeys.check]

theorem eventReceiptVerifies_repinned :
    (e.repinned keys' pinned').eventReceiptVerifies = e.eventReceiptVerifies := by
  funext body rawEvent j pass r
  unfold eventReceiptVerifies
  simp only [repinned, hkeys.check]

theorem accepted_repinned : (e.repinned keys' pinned').accepted = e.accepted := by
  have hone : (e.repinned keys' pinned').acceptedAt = e.acceptedAt := by
    funext pc pass p
    unfold acceptedAt
    rw [eventReceiptVerifies_repinned e keys' pinned' hkeys]
  funext pc pass
  rw [accepted, accepted, hone]

theorem retraction_repinned : (e.repinned keys' pinned').retraction = e.retraction := by
  have hbasis : (e.repinned keys' pinned').admittedBasis = e.admittedBasis := by
    funext body pass p
    unfold admittedBasis
    rw [eventStatus_repinned e keys' pinned' hkeys]
    rfl
  funext pc pass
  unfold retraction
  rw [accepted_repinned e keys' pinned' hkeys, hbasis]
  rfl

theorem verifiedEventTimes_repinned :
    (e.repinned keys' pinned').verifiedEventTimes = e.verifiedEventTimes := by
  funext pc
  unfold verifiedEventTimes
  rw [eventReceiptVerifies_repinned e keys' pinned' hkeys]

theorem attestationRetraction_repinned :
    (e.repinned keys' pinned').attestationRetraction = e.attestationRetraction := by
  funext b pass
  unfold attestationRetraction
  rw [retraction_repinned e keys' pinned' hkeys]
  rfl

theorem appliedRevocation_repinned : (e.repinned keys' pinned').appliedRevocation = e.appliedRevocation := by
  have hkeyless : (e.repinned keys' pinned').keylessRevocation = e.keylessRevocation := by
    funext key b revocation pass
    unfold keylessRevocation
    rw [retraction_repinned e keys' pinned' hkeys]
    rfl
  have hsigned : (e.repinned keys' pinned').keylessSignedRevocation = e.keylessSignedRevocation := by
    funext key pc b pass
    unfold keylessSignedRevocation
    rw [hkeyless]
    rfl
  funext key pc b pass
  unfold appliedRevocation
  rw [hsigned]
  rfl

end Events

section Stages
include hkeys hwitnesses

theorem witnesses_repinned : (e.repinned keys' pinned').witnesses = e.witnesses := by
  have hone : (e.repinned keys' pinned').countWitness = e.countWitness := by
    funext checkpoint pass seen c
    unfold countWitness
    rw [cosignatureVerifies_repinned e keys' pinned' hkeys]
    simp only [repinned, hwitnesses]
  funext checkpoint pass
  unfold witnesses
  rw [hone]
  rfl

include hregistries

theorem log_repinned : (e.repinned keys' pinned').log = e.log := by
  funext pc basic pass
  unfold log
  rw [checkpointSignature_repinned e keys' pinned' hkeys, witnesses_repinned e keys' pinned' hkeys hwitnesses,
    registryBasis_repinned e keys' pinned' hregistries]
  rfl

end Stages

section Basics
include hkeys hregistries

theorem receipt_repinned : (e.repinned keys' pinned').receipt = e.receipt := by
  funext key pc recomputed producerFingerprint pass
  unfold receipt
  rw [registryBasis_repinned e keys' pinned' hregistries]
  have hchecked : (e.repinned keys' pinned').receiptChecked = e.receiptChecked := rfl
  rw [hchecked]
  simp only [repinned, hkeys.check, hkeys.onlyAfter]

theorem keyStages_repinned : (e.repinned keys' pinned').keyStages = e.keyStages := by
  have hstages : (e.repinned keys' pinned').keylessStages = e.keylessStages := by
    funext body a r pass
    unfold keylessStages
    rw [registryBasis_repinned e keys' pinned' hregistries]
    simp only [repinned, hkeys.hasSnapshot, hkeys.listed]
  funext body check receipt pass attested
  unfold keyStages
  rw [hstages]
  rfl

theorem basicWith_repinned : (e.repinned keys' pinned').basicWith = e.basicWith := by
  have hlocate : (e.repinned keys' pinned').locate = e.locate := by
    funext body pass attested
    unfold locate
    simp only [repinned, hkeys.check]
  funext key pc pass attested
  unfold basicWith
  rw [hlocate, receipt_repinned e keys' pinned' hkeys hregistries,
    keyStages_repinned e keys' pinned' hkeys hregistries]
  rfl

theorem basic_repinned : (e.repinned keys' pinned').basic = e.basic := by
  have husable : (e.repinned keys' pinned').attestationUsable = e.attestationUsable := by
    funext pc b pass
    unfold attestationUsable
    simp only [repinned, hkeys.hasSnapshot]
  have hattestation : (e.repinned keys' pinned').attestationBasic = e.attestationBasic := by
    funext key pc pass
    unfold attestationBasic
    rw [basicWith_repinned e keys' pinned' hkeys hregistries]
  have hattested : (e.repinned keys' pinned').keylessAttested = e.keylessAttested := by
    funext body pass
    unfold keylessAttested
    rw [husable, hattestation]
    rfl
  funext key pc pass
  unfold basic attested
  rw [hattested, basicWith_repinned e keys' pinned' hkeys hregistries]
  rfl

theorem appliedRevocations_repinned :
    (e.repinned keys' pinned').appliedRevocations = e.appliedRevocations := by
  funext pass
  unfold appliedRevocations
  rw [appliedRevocation_repinned e keys' pinned' hkeys, basic_repinned e keys' pinned' hkeys hregistries]
  rfl

theorem horizon_repinned : (e.repinned keys' pinned').horizon = e.horizon := by
  have htimes : (e.repinned keys' pinned').contextTimes = e.contextTimes := by
    funext p
    unfold contextTimes
    rw [basic_repinned e keys' pinned' hkeys hregistries, verifiedEventTimes_repinned e keys' pinned' hkeys,
      checkpointSignature_repinned e keys' pinned' hkeys]
  unfold horizon
  rw [htimes, checkpointSignature_repinned e keys' pinned' hkeys]
  rfl

end Basics

section Verdict
include hkeys hregistries hwitnesses hvantages

theorem full_repinned : (e.repinned keys' pinned').full = e.full := by
  have hvantage : (e.repinned keys' pinned').vantagePinned = e.vantagePinned := by
    funext vantage
    change decide (vantage ∈ pinned'.vantages) = _
    rw [hvantages]
    rfl
  have hdiscovered : (e.repinned keys' pinned').discovered = e.discovered := by
    funext producer pass
    unfold discovered
    rw [hvantage]
    rfl
  have hrevocation : (e.repinned keys' pinned').keyRevocation = e.keyRevocation := by
    funext body basic revocations pass
    unfold keyRevocation
    rw [hdiscovered]
    rfl
  funext pc basic revocations pass
  unfold full
  rw [retraction_repinned e keys' pinned' hkeys, attestationRetraction_repinned e keys' pinned'
    hkeys, hrevocation, log_repinned e keys' pinned' hkeys hregistries hwitnesses]
  rfl

theorem node_repinned : (e.repinned keys' pinned').node = e.node := by
  have hpass : (e.repinned keys' pinned').passAt = e.passAt := by
    funext cycles ctxId pass
    unfold passAt
    rw [full_repinned e keys' pinned' hkeys hregistries hwitnesses hvantages,
      basic_repinned e keys' pinned' hkeys hregistries, appliedRevocations_repinned e keys' pinned'
      hkeys hregistries]
    rfl
  funext cycles asOf p
  unfold node
  rw [hpass]
  rfl

theorem verdict_repinned (jcs : JcsDigest) (evidence : Evidence) (options options' : Options) (w : Walk)
    (hasOf : options'.asOf = options.asOf) (hlimits : options'.limits = options.limits)
    (hevents : options'.requireAttestedEvents = options.requireAttestedEvents)
    (hdigest : options'.pinned.bind (Pinned.digest jcs) = options.pinned.bind (Pinned.digest jcs)) :
    (e.repinned keys' pinned').verdict jcs evidence options' w = e.verdict jcs evidence options w := by
  unfold verdict
  rw [node_repinned e keys' pinned' hkeys hregistries hwitnesses hvantages,
    horizon_repinned e keys' pinned' hkeys hregistries, hasOf, hlimits, hevents, hdigest]
  rfl

end Verdict

end Engine

section Pins

variable (env : Env) (jcs : JcsDigest) (keyless : Bool)

def Options.withPinned (o : Options) (pinned : Option Pinned) : Options := { o with pinned := pinned }

theorem engineOf_samePins (hserde : DocumentSerde env) (p p' : Pinned) (hp : p.WellFormed)
    (hp' : p'.WellFormed) (hconsistent : Pinned.Consistent p.snapshots) (h : p.SamePins p')
    (evidence : Evidence) (parsed : Parsed)
    (options : Options) (w : Walk) (hdigest : p'.digest jcs = p.digest jcs) :
    (engineOf env keyless parsed (options.withPinned (some p'))).verdict jcs evidence
        (options.withPinned (some p')) w =
      (engineOf env keyless parsed (options.withPinned (some p))).verdict jcs evidence
        (options.withPinned (some p)) w := by
  obtain ⟨hregistries, hwitnesses, hvantages, hattesters⟩ := Pinned.normalized_lists_eq p p' h
  have halike := Pinned.normalized_snapshots_alike p p' hp hp' hconsistent h
  have hflip : List.Forall₂ PinnedSnapshot.Alike p.normalized.snapshots p'.normalized.snapshots :=
    halike.flip.imp (fun _ _ hs => ⟨hs.did.symm, hs.instant.symm, hs.document.symm⟩)
  have hkeys := BundleKeys.sameKeys_of_candidates env _ _ (candidates_rel env hserde parsed _ _ hflip) hserde
  have hengine : engineOf env keyless parsed (options.withPinned (some p')) =
      (engineOf env keyless parsed (options.withPinned (some p))).repinned
        (BundleKeys.new env parsed p'.normalized) p'.normalized := by
    simp only [engineOf, Options.withPinned, Engine.repinned, Option.getD_some, hattesters]
  rw [hengine]
  exact Engine.verdict_repinned _ _ _ hkeys hregistries hwitnesses hvantages jcs evidence _ _ w rfl
    rfl rfl hdigest

theorem verifyChain_withPinned_congr (p p' : Option Pinned) (options : Options)
    (hcheck : (options.withPinned p').check env keyless = (options.withPinned p).check env keyless)
    (hverdict : ∀ evidence parsed w,
      (engineOf env keyless parsed (options.withPinned p')).verdict jcs evidence (options.withPinned p') w =
      (engineOf env keyless parsed (options.withPinned p)).verdict jcs evidence (options.withPinned p) w)
    (roots : List String) (evidence : Evidence) :
    verifyChain env jcs keyless roots evidence (options.withPinned p') =
      verifyChain env jcs keyless roots evidence (options.withPinned p) := by
  unfold verifyChain verifyChainWithBudget
  rw [hcheck]
  simp only [hverdict]
  rfl

theorem check_default : Pinned.default.check env keyless = .ok () := by
  cases keyless <;> rfl

/-- Pinned trust is a set: nothing but the pins themselves is visible in a verdict. -/
theorem verdict_of_samePins (hserde : DocumentSerde env) (fmt : FloatFormat)
    (hjcs : env.canonicalize = tryCanonicalizeValue fmt)
    (hdigest : ∀ p : Pinned, jcs.pinned p = jcsDigest env p.toValue) (p p' : Pinned) (hp : p.WellFormed)
    (hcheck : p.check env keyless = .ok ()) (h : p.SamePins p') :
    p'.check env keyless = .ok () ∧
      (List.Forall₂ (fun s' s => s'.sameAs s = true) p'.normalized.snapshots p.normalized.snapshots ∧
        p'.normalized.registries = p.normalized.registries ∧ p'.normalized.witnesses =
          p.normalized.witnesses ∧
        p'.normalized.vantages = p.normalized.vantages ∧
        p'.normalized.keylessAttesters = p.normalized.keylessAttesters) ∧
      p'.normalized.normalized = p'.normalized ∧
      p'.digest jcs = p.digest jcs ∧
      (∀ (roots : List String) (evidence : Evidence) (options : Options),
        verifyChain env jcs keyless roots evidence (options.withPinned (some p')) =
          verifyChain env jcs keyless roots evidence (options.withPinned (some p))) ∧
      (p.isEmpty = true → p.digest jcs = none ∧
        ∀ (roots : List String) (evidence : Evidence) (options : Options),
          verifyChain env jcs keyless roots evidence (options.withPinned (some p)) =
            verifyChain env jcs keyless roots evidence (options.withPinned none)) := by
  have hp' : p'.WellFormed := fun s hs => hp s ((h.snapshots s).mp hs)
  have hconsistent := ((Pinned.check_ok_iff env keyless p hp).mp hcheck).1
  have hcheck' := Pinned.check_of_samePins env keyless p p' hp hp' h hcheck
  have hsnapshots := Pinned.normalized_snapshots_alike p p' hp hp' hconsistent h
  have hdigests := Pinned.digest_congr env fmt hjcs jcs hdigest p p' hp hp' hconsistent h
  refine ⟨hcheck', ⟨?_, Pinned.normalized_lists_eq p p' h⟩, p'.normalized_idem, hdigests, ?_, ?_⟩
  · have hmem := (List.forall₂_and_left _ _).mpr ⟨Pinned.mem_normalized p', hsnapshots⟩
    have hmem' := (List.forall₂_and_left _ _).mpr ⟨Pinned.mem_normalized p, hmem.flip⟩
    refine hmem'.flip.imp ?_
    rintro s' s ⟨hs, hs', halike⟩
    exact (sameAs_iff s' s (hp' s' hs') (hp s hs)).mpr halike
  · intro roots evidence options
    refine verifyChain_withPinned_congr env jcs keyless (some p) (some p') options ?_ ?_ roots evidence
    · unfold Options.check Options.withPinned
      dsimp only
      rw [hcheck, hcheck']
    · exact fun evidence parsed w =>
        engineOf_samePins env jcs keyless hserde p p' hp hp' hconsistent h evidence parsed options w hdigests
  · intro hempty
    obtain rfl := Pinned.eq_default_of_isEmpty p hempty
    refine ⟨rfl, fun roots evidence options => ?_⟩
    refine verifyChain_withPinned_congr env jcs keyless none (some .default) options ?_ (fun _ _ _ => rfl)
      roots evidence
    unfold Options.check Options.withPinned
    dsimp only
    rw [check_default]
    rfl

end Pins

section Sample

def pinText : String :=
  "\x7b\"registries\":[\"did:web:a.example\",\"did:web:b.example\"],\"snapshots\":[" ++
    "\x7b\"did\":\"did:web:a.example\",\"document\":\x7b\"id\":\"did:web:a.example\"\x7d," ++
    "\"instant\":\"2026-01-10T09:00:00.000Z\"\x7d," ++
    "\x7b\"did\":\"did:web:b.example\",\"document\":\x7b\"id\":\"did:web:b.example\"\x7d," ++
    "\"instant\":\"2026-01-10T09:00:00.000Z\"\x7d]\x7d"

def pinEnv : Env := { sampleEnv with
  canonicalize := tryCanonicalizeValue (fun _ => Jcs.one)
  sha256 := fun bytes =>
    if bytes = utf8 pinText then
      sampleDigest "634bb221eef8f55a6e6236e8667926813a891412b2314b6493923898284ddcbe"
    else sampleSha256 bytes
  didDocumentDeserialize := fun v => parsed (v.asObject.bind DidDocument.read)
  identityDeserialize := fun v => parsed (v.asObject.bind WorkloadIdentity.read) }

theorem pinEnv_serde : DocumentSerde pinEnv where
  document := fun members doc => parsed_ok (DidDocument.read members) doc
  identity := fun members identity => parsed_ok (WorkloadIdentity.read members) identity

def samplePin (did : String) : PinnedSnapshot := ⟨did, [("id", .str did)], "2026-01-10T09:00:00.000Z"⟩

def samplePins : Pinned where
  snapshots := [samplePin "did:web:b.example", samplePin "did:web:a.example"]
  registries := ["did:web:b.example", "did:web:a.example"]
  witnesses := []
  vantages := []
  keylessAttesters := []

def shuffledPins : Pinned where
  snapshots := [samplePin "did:web:a.example", samplePin "did:web:b.example", samplePin "did:web:a.example"]
  registries := ["did:web:a.example", "did:web:a.example", "did:web:b.example"]
  witnesses := []
  vantages := []
  keylessAttesters := []

theorem samplePins_wellFormed : samplePins.WellFormed := by
  intro s hs
  simp only [samplePins, List.mem_cons, List.not_mem_nil, or_false] at hs
  rcases hs with rfl | rfl <;> exact ⟨by simp [samplePin], trivial, trivial⟩

theorem samplePins_check : samplePins.check pinEnv true = .ok () := by decide +kernel

theorem samplePins_shuffled : samplePins.SamePins shuffledPins where
  snapshots := fun s => by
    simp only [samplePins, shuffledPins, List.mem_cons, List.not_mem_nil, or_false]
    tauto
  registries := fun d => by
    simp only [samplePins, shuffledPins, List.mem_cons, List.not_mem_nil, or_false]
    tauto
  witnesses := fun _ => Iff.rfl
  vantages := fun _ => Iff.rfl
  keylessAttesters := fun _ => Iff.rfl

def pinJcs : JcsDigest := { sampleJcs with pinned := fun p => jcsDigest pinEnv p.toValue }

theorem verdict_of_shuffledPins :
    shuffledPins.check pinEnv true = .ok () ∧ shuffledPins.digest pinJcs = samplePins.digest pinJcs ∧
      verifyChain pinEnv pinJcs true [sampleCtxId] sampleEvidence
        (Options.default.withPinned (some shuffledPins)) = verifyChain pinEnv pinJcs true
        [sampleCtxId] sampleEvidence (Options.default.withPinned (some samplePins)) := by
  obtain ⟨hcheck, -, -, hdigest, hverdict, -⟩ :=
    verdict_of_samePins pinEnv pinJcs true pinEnv_serde (fun _ => Jcs.one) rfl
      (fun _ => rfl) samplePins shuffledPins samplePins_wellFormed samplePins_check samplePins_shuffled
  exact ⟨hcheck, hdigest, hverdict [sampleCtxId] sampleEvidence .default⟩

end Sample

end Acdp.Chain
