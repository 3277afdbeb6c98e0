import Acdp.Chain.Accepted
import Acdp.Chain.SealedSnapshots
import Acdp.Chain.WalkAdmitted
import Acdp.Foundation.Insertion

namespace Acdp.Chain

open Acdp.Types
open Acdp.Crypto
open Acdp.Foundation
open Acdp.Foundation.Entries
open Acdp.Foundation.Insertion
open Std (ExtTreeMap)

/-- `ce'` is `ce` with lifecycle events appended and event receipts added that are accepted after `t`; a
receipt of `ce` that an appended event takes up is accepted after `t` too. -/
structure ContextEvidence.Extended (env : Env) (t : DateTime) (ce ce' : ContextEvidence) : Prop where
  body : ce'.body = ce.body
  registryReceipt : ce'.registryReceipt = ce.registryReceipt
  logInclusion : ce'.logInclusion = ce.logInclusion
  events : ∃ added, ce'.lifecycleEvents.getD [] = ce.lifecycleEvents.getD [] ++ added
  eventReceipts : ∃ added, ce'.eventReceipts.getD [] = ce.eventReceipts.getD [] ++ added ∧
    ∀ v ∈ added, ∃ r, EventReceipt.fromValue env v = .ok r ∧ t < r.acceptedAt
  taken : ∀ (j : ℕ) (v : Json) (r : EventReceipt), (ce.lifecycleEvents.getD []).length ≤ j →
    j < (ce'.lifecycleEvents.getD []).length → (ce.eventReceipts.getD [])[j]? = some v →
    EventReceipt.fromValue env v = .ok r → t < r.acceptedAt

structure Evidence.Extended (env : Env) (t : DateTime) (evidence evidence' : Evidence) : Prop where
  didDocuments : evidence'.didDocuments = evidence.didDocuments
  omitted : evidence'.omitted = evidence.omitted
  kept : ∀ (k : String) (ce : ContextEvidence), evidence.contexts[k]? = some ce →
    ∃ ce', evidence'.contexts[k]? = some ce' ∧ ce.Extended env t ce'
  added : ∀ (k : String) (ce' : ContextEvidence), evidence.contexts[k]? = none →
    evidence'.contexts[k]? = some ce' → ∃ v r, ce'.registryReceipt = some v ∧
    RegistryReceipt.fromValue env v = .ok r ∧ t < r.createdAt
  discovery : ∀ did, Inserted (fun d => ∃ time, parseTs env d.completedAt = some time ∧ t < time)
    ((evidence.revocationDiscovery.getD ∅).getD did []) ((evidence'.revocationDiscovery.getD ∅).getD did [])
  cosignatures : Inserted (fun v => ∃ c, LogCosignature.fromValue env v = .ok c ∧ t < c.witnessedAt)
    ((evidence.checkpoints.getD []).flatMap (·.cosignatures.getD []))
    ((evidence'.checkpoints.getD []).flatMap (·.cosignatures.getD []))

theorem contextSealed_of_extended (env : Env) (t : DateTime) (key : String) (ce ce' : ContextEvidence)
    (pc pc' : ParsedContext) (h : ContextAccepted env key ce pc) (h' : ContextAccepted env key ce' pc')
    (hext : ce.Extended env t ce') : ContextSealed true t pc pc' := by
  obtain ⟨added, hevents⟩ := hext.events
  obtain ⟨addedReceipts, hreceipts, hlate⟩ := hext.eventReceipts
  have hparsedEvents := h'.events
  have hparsedReceipts := h'.eventReceipts
  rw [hevents] at hparsedEvents
  rw [hreceipts] at hparsedReceipts
  obtain ⟨rest, hrest, hrestEvents⟩ := append_of_forall₂_ok _ _ _ _ _ h.events hparsedEvents
  obtain ⟨restReceipts, hrestReceipts, hparsed⟩ :=
    append_of_forall₂_ok _ _ _ _ _ h.eventReceipts hparsedReceipts
  have hbody := h'.body
  have hreceipt := h'.receipt
  have hlog := h'.logInclusion
  rw [hext.body] at hbody
  rw [hext.registryReceipt] at hreceipt
  rw [hext.logInclusion] at hlog
  refine {
    rawBody := by rw [h'.rawBody, hext.body, h.rawBody]
    body := Except.ok.inj (hbody.symm.trans h.body)
    receipt := Except.ok.inj (hreceipt.symm.trans h.receipt)
    logInclusion := Except.ok.inj (hlog.symm.trans h.logInclusion)
    events := ⟨rest, hrest.symm⟩
    eventReceipts := ⟨restReceipts, hrestReceipts.symm⟩
    late := ?_
    attested := .inr rfl
    taken := ?_ }
  · intro r hr
    rw [hrestReceipts, List.drop_left] at hr
    obtain ⟨v, hv, hparse⟩ := mem_of_forall₂_ok _ _ _ hparsed r hr
    obtain ⟨r', hr', hlt⟩ := hlate v hv
    have hvalue := map_pair_ok _ _ _ (member_ok _ _ _ _ hparse)
    rw [hr'] at hvalue
    rwa [← Except.ok.inj hvalue]
  · intro j r hle hlt hr
    rw [← h.events.length_eq] at hle
    rw [← h'.events.length_eq] at hlt
    obtain ⟨hj, rfl⟩ := List.getElem?_eq_some_iff.mp hr
    have hj' : j < (ce.eventReceipts.getD []).length := by rwa [h.eventReceipts.length_eq]
    have hparse := h.eventReceipts.get hj' hj
    exact hext.taken j _ _ hle hlt (List.getElem?_eq_getElem hj')
      (map_pair_ok _ _ _ (member_ok _ _ _ _ hparse))

theorem late_of_added (env : Env) (t : DateTime) (key : String) (ce : ContextEvidence) (pc : ParsedContext)
    (h : ContextAccepted env key ce pc) (v : Json) (r : RegistryReceipt) (hv : ce.registryReceipt = some v)
    (hr : RegistryReceipt.fromValue env v = .ok r) (hlate : t < r.createdAt) :
    ∃ r, pc.receipt = some r ∧ t < r.1.createdAt := by
  have hreceipt := h.receipt
  rw [hv] at hreceipt
  cases hparse : parseReceipt env key v with
  | error e =>
    rw [Option.mapM_some, hparse] at hreceipt
    cases hreceipt
  | ok p =>
    rw [Option.mapM_some, hparse] at hreceipt
    obtain ⟨r', hr', hrest⟩ := bind_ok _ _ _ (member_ok _ _ _ _ hparse)
    obtain ⟨-, -, hrest⟩ := bind_ok _ _ _ hrest
    rw [hr] at hr'
    obtain rfl := Except.ok.inj hr'
    obtain rfl := Except.ok.inj hrest
    exact ⟨(r, v), (Except.ok.inj hreceipt).symm, hlate⟩

/-- The contexts `evidence'` adds are no roots, no admitted node derives from one, and no keyless body names
one as its attestation. -/
def Unreferenced (env : Env) (roots : List String) (parsed : Parsed) (w : Walk)
    (evidence evidence' : Evidence) : Prop :=
  ∀ (k : String) (ce' : ContextEvidence), evidence.contexts[k]? = none → evidence'.contexts[k]? = some ce' →
    k ∉ roots ∧
    (∀ j ∈ w.depth, ∀ pc : ParsedContext, parsed.contexts[j]? = some pc → k ∉ pc.body.derivedFrom) ∧
    ∀ (j : String) (pc : ParsedContext) (reference : KeyAttestationRef), parsed.contexts[j]? = some pc →
      isKeylessKeyId pc.body.signature.keyId = true → pc.body.keyAttestation env = .ok (some reference) →
      reference.ctxId ≠ k

theorem sealed_of_extended (env : Env) (keyless : Bool) (evidence evidence' : Evidence)
    (parsed parsed' : Parsed) (roots : List String) (w : Walk) (options : Options) (t : DateTime)
    (hreq : options.requireAttestedEvents = true) (h : evidence.Accepted env parsed)
    (h' : evidence'.Accepted env parsed') (hext : evidence.Extended env t evidence')
    (hunreferenced : Unreferenced env roots parsed w evidence evidence') :
    Engine.Sealed t (engineOf env keyless parsed options) (engineOf env keyless parsed' options) := by
  have hsnapshots : parsed'.snapshots = parsed.snapshots := by
    have hparse := h'.snapshots
    rw [hext.didDocuments, h.snapshots] at hparse
    exact (Except.ok.inj hparse).symm
  have hnone (k : String) : parsed.contexts[k]? = none ↔ evidence.contexts[k]? = none :=
    parseEntries_none _ _ _ h.contexts k
  refine {
    env := rfl
    keyless := rfl
    pinned := rfl
    requireAttestedEvents := rfl
    keylessAttesters := rfl
    select := fun did => by simp only [engineOf, BundleKeys.new, hsnapshots]
    kept := ?_
    late := ?_
    unnamed := ?_
    discovery := ?_
    cosignatures := ?_
    omitted := by rw [engineOf, engineOf, h'.omitted, h.omitted, hext.omitted] }
  · intro k pc hpc
    obtain ⟨ce, hce, hparse⟩ := parseEntries_source _ _ _ h.contexts k pc hpc
    obtain ⟨ce', hce', hextended⟩ := hext.kept k ce hce
    obtain ⟨pc', hpc', hparse'⟩ := parseEntries_target _ _ _ h'.contexts k ce' hce'
    refine ⟨pc', hpc', ?_⟩
    rw [engineOf, hreq]
    exact contextSealed_of_extended env t k ce ce' pc pc' (parseContextEntry_ok env k ce pc hparse)
      (parseContextEntry_ok env k ce' pc' hparse') hextended
  · intro k pc' hpc hpc'
    obtain ⟨ce', hce', hparse'⟩ := parseEntries_source _ _ _ h'.contexts k pc' hpc'
    obtain ⟨v, r, hv, hr, hlate⟩ := hext.added k ce' ((hnone k).mp hpc) hce'
    exact late_of_added env t k ce' pc' (parseContextEntry_ok env k ce' pc' hparse') v r hv hr hlate
  · intro k pc reference hpc hkey href hatt
    rw [← Option.not_isSome_iff_eq_none, Option.isSome_iff_exists]
    rintro ⟨pc', hpc'⟩
    obtain ⟨ce', hce', -⟩ := parseEntries_source _ _ _ h'.contexts _ pc' hpc'
    exact (hunreferenced _ ce' ((hnone _).mp hatt) hce').2.2 k pc reference hpc hkey href rfl
  · intro did
    have hinserted := (hext.discovery did).map_ok (parseRecord env) (Q := fun d => t < d.completedAt)
      (fun r d hlate hparse => by
        obtain ⟨time, htime, hlt⟩ := hlate
        rw [parseRecord_completedAt env r d hparse] at htime
        rwa [Option.some.inj htime])
      _ _ (parseDiscovery_forall₂ env _ _ h.discovery did) (parseDiscovery_forall₂ env _ _ h'.discovery did)
    exact hinserted.filter_eq _ (fun d hlate => by simpa using hlate)
  · have hinserted := hext.cosignatures.map_ok (parseCosignature env) (Q := fun c => t < c.1.witnessedAt)
      (fun v c hlate hparse => by
        obtain ⟨c', hc', hlt⟩ := hlate
        rw [parseCosignature_ok env v c hparse] at hc'
        rwa [Except.ok.inj hc'])
      _ _ (flatMap_cosignatures env _ _ (forall₂_of_mapM_ok _ _ _ h.checkpoints))
      (flatMap_cosignatures env _ _ (forall₂_of_mapM_ok _ _ _ h'.checkpoints))
    exact hinserted.filter_eq _ (fun c hlate => by simpa using hlate)

/-- With attested events required, evidence added after `t` leaves the as-of half of the verdict as it is. -/
theorem evidence_sealed (env : Env) (jcs : JcsDigest) (keyless : Bool) (roots : List String)
    (evidence evidence' : Evidence) (parsed : Parsed) (options : Options) (t : DateTime) (v v' : ChainVerdict)
    (hparsed : evidence.parse env = .ok parsed) (ht : options.asOf = some t)
    (hreq : options.requireAttestedEvents = true) (hext : evidence.Extended env t evidence')
    (hunreferenced : Unreferenced env roots parsed (walk roots parsed options.limits (fun _ => false))
      evidence evidence')
    (hv : verifyChain env jcs keyless roots evidence options = .ok v)
    (hv' : verifyChain env jcs keyless roots evidence' options = .ok v') :
    asOfProjection v' = asOfProjection v ∧ v'.asOfDigest = v.asOfDigest := by
  obtain ⟨parsed₁, -, hparsed₁, rfl⟩ := verifyChain_ok env jcs keyless roots _ options v hv
  obtain ⟨parsed', -, hparsed', rfl⟩ := verifyChain_ok env jcs keyless roots _ options v' hv'
  rw [hparsed] at hparsed₁
  obtain rfl := Except.ok.inj hparsed₁
  have h := Evidence.parse_ok env evidence parsed hparsed
  have h' := Evidence.parse_ok env evidence' parsed' hparsed'
  have hsealed := sealed_of_extended env keyless evidence evidence' parsed parsed' roots _ options t
    hreq h h' hext hunreferenced
  have habsent : ∀ k ∈ (walk roots parsed options.limits (fun _ => false)).depth,
      parsed.contexts[k]? = none → parsed'.contexts[k]? = none := by
    intro k hk hpc
    rw [parseEntries_none _ _ _ h.contexts] at hpc
    rw [parseEntries_none _ _ _ h'.contexts, ← Option.not_isSome_iff_eq_none, Option.isSome_iff_exists]
    rintro ⟨ce', hce'⟩
    obtain ⟨hroot, hderived, -⟩ := hunreferenced k ce' hpc hce'
    rcases walk_origin roots parsed options.limits _ k hk with hroots | ⟨j, hj, pc, hj', hmem⟩
    · exact hroot hroots
    · exact hderived j hj pc hj' hmem
  have hwalk : walk roots parsed' options.limits (fun _ => false) =
      walk roots parsed options.limits (fun _ => false) := by
    refine walk_congr roots parsed parsed' options.limits _ (fun k hk => ?_)
    rw [Parsed.successors, Parsed.successors]
    cases hpc : parsed.contexts[k]? with
    | none => rw [habsent k hk hpc]
    | some pc =>
      obtain ⟨pc', hpc', hc⟩ := hsealed.kept k pc hpc
      have hpc' : parsed'.contexts[k]? = some pc' := hpc'
      rw [hpc', Option.map_some, Option.map_some, hc.body]
  have hkeys : (engineOf env keyless parsed' options).keys = (engineOf env keyless parsed options).keys := by
    have hparse := h'.snapshots
    rw [hext.didDocuments, h.snapshots] at hparse
    simp only [engineOf, BundleKeys.new, Except.ok.inj hparse]
  rw [hwalk]
  have hsame := (hsealed.asOfProjection_iff jcs evidence evidence' options ht _ habsent).mpr
    (fun k _ pc did _ _ _ => by rw [hkeys])
  refine ⟨hsame, ?_⟩
  rw [Engine.asOfDigest_verdict, Engine.asOfDigest_verdict, hsame]

theorem retractedAt_le : 1768867200 ≤ 2000000000 := by decide

theorem revokedAt_le : 1772323200 ≤ 2000000000 := by decide

def sampleEvent (eventId : String) (eventType : LifecycleEventType) : LifecycleEvent where
  eventId := eventId
  ctxId := sampleCtxId
  eventType := eventType
  occurredAt := sampleTime 1768867200 retractedAt_le
  actor := "did:web:registry.example"
  reason := none
  signature := none

def sampleEventJson (eventId eventType : String) : Json :=
  .obj [("actor", .str "did:web:registry.example"), ("ctx_id", .str sampleCtxId), ("event_id", .str eventId),
    ("event_type", .str eventType), ("occurred_at", .str "2026-01-20T00:00:00.000Z")]

def retractedJson : Json := sampleEventJson "0f8b7c52-3a94-4d1e-b6c7-91d2e3f4a5b6" "retracted"

def republishedJson : Json := sampleEventJson "7c1d2e3f-4a5b-4c6d-8e7f-90a1b2c3d4e5" "republished"

def sampleEventReceipt (eventId eventHash : String) (index : UInt64) (value : String) : EventReceipt where
  receiptType := "acdp-event-receipt/1"
  registryDid := "did:web:registry.example"
  ctxId := sampleCtxId
  eventId := eventId
  eventHash := eventHash
  index := index
  acceptedAt := sampleTime 1768867200 retractedAt_le
  signature := ⟨"ed25519", "did:web:registry.example#k1", value⟩

def retractedReceipt : EventReceipt :=
  sampleEventReceipt "0f8b7c52-3a94-4d1e-b6c7-91d2e3f4a5b6"
    "sha256:c0203efc9199e3244f41385d9bb39a53c5a4d6eabdb485cc44547335d1b9ba1a" 0
    "evFe8C+O1YGdWK0GjYieMAPPlWN7458dmnc/cl1YTg1Dn7BiyEir/dowQ7xHEcp29W2xtl4+JjFiKR0Is/jVAA=="

def republishedReceipt : EventReceipt :=
  sampleEventReceipt "7c1d2e3f-4a5b-4c6d-8e7f-90a1b2c3d4e5"
    "sha256:52618742827e0b2375e9c01e52e115b0fb1d334a4b39dabfe91407ecb91caa07" 1
    "24nGirZWtLT+OO+yaTvcM5fWEEHiB0xFpoy1NeRyJ4y8UyBenyBBaxTuRDFkbvYF0NpUhvkJXYtq/SxLyfFxCw=="

def eventReceiptMembers (r : EventReceipt) : List (String × Json) :=
  [("accepted_at", .str "2026-01-20T00:00:00.000Z"), ("ctx_id", .str r.ctxId),
    ("event_hash", .str r.eventHash), ("event_id", .str r.eventId), ("index", .num (.posInt r.index)),
    ("receipt_type", .str r.receiptType),
    ("registry_did", .str r.registryDid)]

def eventReceiptJson (r : EventReceipt) : Json :=
  .obj (eventReceiptMembers r ++ [("signature", signatureJson r.signature)])

def revocationCtxId : CtxId := "acdp://registry.example/d3c9a6e1-52f4-4b7a-8e10-6f2b9c84a7d5"

def revocationMetadata : Json :=
  .obj [("compromised_since", .str "2026-01-20T00:00:00.000Z"),
    ("revoked_key_fingerprint", .str sampleFingerprint)]

def revocationBody : Body :=
  { sampleBody with
    ctxId := revocationCtxId
    lineageId := "lin:sha256:bf895259dd5fa4c2db5eaec48dd9778ce61745f0fbd4e6d2f559f3e45a636a9d"
    createdAt := sampleTime 1772323200 revokedAt_le
    contentHash := "sha256:c016022dc4e624e7d68296df83dbc2ef89c063f0f2a0c3eccf5aed5c254eadb7"
    signature := ⟨"ed25519", "did:web:agents.example#k2",
      "j1DJ3CAsD2wlTsw6CSUOtXBL3bmrGMoCJxMFNPK7EC6Z3MEqcDvNiXtAMXRq/+auOYGRYK0zq7vJBM8dfFvABQ=="⟩
    title := "Key compromise"
    contextType := .keyRevocation
    metadata := some revocationMetadata }

def revocationBodyJson : Json :=
  .obj [("agent_id", .str "did:web:agents.example"), ("content_hash", .str revocationBody.contentHash),
    ("contributors", .arr []), ("created_at", .str "2026-03-01T00:00:00.000Z"),
    ("ctx_id", .str revocationCtxId),
    ("data_refs", .arr []), ("derived_from", .arr []), ("lineage_id", .str revocationBody.lineageId),
    ("metadata", revocationMetadata), ("origin_registry", .str "registry.example"),
    ("signature", signatureJson revocationBody.signature), ("supersedes", .null),
    ("title", .str "Key compromise"),
    ("type", .str "key-revocation"), ("version", .num (.posInt 1)), ("visibility", .str "public")]

def revocationReceipt : RegistryReceipt :=
  { sampleReceipt with
    ctxId := revocationCtxId
    lineageId := revocationBody.lineageId
    createdAt := sampleTime 1772323200 revokedAt_le
    contentHash := revocationBody.contentHash
    keyFingerprint := "sha256:b1a13cd6120dfe73b3b813cae5ac2bce5a7795774bb6cd74f77a749da95b5337"
    signature := ⟨"ed25519", "did:web:registry.example#k1",
      "qNf+PjRT4Ug7Djb/tv6XLdToZIP0EUgKWlEXhV+ycD/LOgbNWjvvBAyimti3bVsJ9EM4OIYTy+LiHWbwf2NCCA=="⟩ }

def revocationReceiptJson : Json :=
  .obj [("content_hash", .str revocationBody.contentHash), ("created_at", .str "2026-03-01T00:00:00.000Z"),
    ("ctx_id", .str revocationCtxId), ("key_fingerprint", .str revocationReceipt.keyFingerprint),
    ("lineage_id", .str revocationBody.lineageId), ("origin_registry", .str "registry.example"),
    ("registry_did", .str "did:web:registry.example"),
    ("signature", signatureJson revocationReceipt.signature)]

def registryJwk : Json :=
  .obj [("crv", .str "Ed25519"), ("kty", .str "OKP"),
    ("x", .str "6ZoEgp9QSukfSpVcbT8MJyPgn6AUTT9DOK0vR5siDks")]

def registryDocument : List (String × Json) :=
  [("assertionMethod", .arr [.str "did:web:registry.example#k1"]), ("id", .str "did:web:registry.example"),
    ("verificationMethod", .arr [.obj [("controller", .str "did:web:registry.example"),
      ("id", .str "did:web:registry.example#k1"), ("publicKeyJwk", registryJwk),
      ("type", .str "JsonWebKey2020")]])]

def registryKey : List UInt8 :=
  [233, 154, 4, 130, 159, 80, 74, 233, 31, 74, 149, 92, 109, 63, 12, 39,
    35, 224, 159, 160, 20, 77, 63, 67, 56, 173, 47, 71, 155, 34, 14, 75]

def eventSha256 (bytes : List UInt8) : Merkle.Digest :=
  if bytes = canonicalBytes retractedJson then
    sampleDigest "c0203efc9199e3244f41385d9bb39a53c5a4d6eabdb485cc44547335d1b9ba1a"
  else if bytes = canonicalBytes republishedJson then
    sampleDigest "52618742827e0b2375e9c01e52e115b0fb1d334a4b39dabfe91407ecb91caa07"
  else if bytes = canonicalBytes (.obj (eventReceiptMembers retractedReceipt)) then
    sampleDigest "648981b9a2b7c2a895bf122d7b49cd01068106531514de5b7d264ca35fcbb9be"
  else if bytes = canonicalBytes (.obj (eventReceiptMembers republishedReceipt)) then
    sampleDigest "7e0a62f90cb425559e56e313e618166b36675adfda41ba9eb7a0bbe8ea0a1720"
  else if bytes = utf8 revocationCtxId then
    sampleDigest "bf895259dd5fa4c2db5eaec48dd9778ce61745f0fbd4e6d2f559f3e45a636a9d"
  else if bytes = canonicalBytes (.obj (removeKeys contentHashExclude
      (revocationBodyJson.asObject.getD []))) then
    sampleDigest "c016022dc4e624e7d68296df83dbc2ef89c063f0f2a0c3eccf5aed5c254eadb7"
  else if bytes = canonicalBytes (.obj (removeKeys ["signature"] (revocationReceiptJson.asObject.getD [])))
    then sampleDigest "47b61cb5d8d6bf00bb4d27f6cafa2e9924768be8add5f042cddd4a24e227d814"
  else sampleSha256 bytes

def eventEnv : Env :=
  { sampleEnv with
    sha256 := eventSha256
    bodyDeserialize := fun value =>
      if (value.get "metadata").isSome then .ok revocationBody else sampleEnv.bodyDeserialize value
    receiptDeserialize := fun value =>
      if (value.get "created_at").bind Json.asStr = some "2026-03-01T00:00:00.000Z" then .ok revocationReceipt
      else sampleEnv.receiptDeserialize value
    eventDeserialize := fun value =>
      if (value.get "event_type").bind Json.asStr = some "retracted" then
        .ok (sampleEvent "0f8b7c52-3a94-4d1e-b6c7-91d2e3f4a5b6" .retracted)
      else .ok (sampleEvent "7c1d2e3f-4a5b-4c6d-8e7f-90a1b2c3d4e5" .republished)
    eventReceiptDeserialize := fun value =>
      if value.get "index" = some (.num (.posInt 0)) then .ok retractedReceipt else .ok republishedReceipt
    didDocumentDeserialize := fun value =>
      if (value.get "verificationMethod").isSome then .ok {
        id := "did:web:registry.example"
        verificationMethods := [{
          id := "did:web:registry.example#k1"
          methodType := "JsonWebKey2020"
          controller := "did:web:registry.example"
          publicKeyJwk := some registryJwk
          publicKeyMultibase := none }]
        assertionMethod := [.id "did:web:registry.example#k1"]
        services := [] }
      else sampleEnv.didDocumentDeserialize value
    base64UrlDecode := fun x =>
      if x = "6ZoEgp9QSukfSpVcbT8MJyPgn6AUTT9DOK0vR5siDks" then .ok registryKey else .error "no key"
    verifyEd25519 := fun key signature message =>
      if key.toList = registryKey ∧
          ((signature = retractedReceipt.signature.value ∧
            message = "sha256:648981b9a2b7c2a895bf122d7b49cd01068106531514de5b7d264ca35fcbb9be") ∨
          (signature = republishedReceipt.signature.value ∧
            message = "sha256:7e0a62f90cb425559e56e313e618166b36675adfda41ba9eb7a0bbe8ea0a1720")) then .ok ()
      else .error (.invalidSignature "signature verification failed") }

def eventHistory (events : List Json) : Evidence :=
  { sampleEvidence with
    contexts := (∅ : ExtTreeMap String ContextEvidence).insert sampleCtxId {
      body := sampleBodyJson
      registryReceipt := none
      lifecycleEvents := some events
      eventReceipts := some [eventReceiptJson retractedReceipt, eventReceiptJson republishedReceipt]
      logInclusion := none }
    didDocuments := some ((∅ : ExtTreeMap String (List DidSnapshot)).insert "did:web:registry.example" [{
      document := registryDocument
      observedAt := "2026-01-01T00:00:00.000Z"
      observedBy := none
      source := none }]) }

def revocationContext : ContextEvidence where
  body := revocationBodyJson
  registryReceipt := some revocationReceiptJson
  lifecycleEvents := none
  eventReceipts := none
  logInclusion := none

def revocationContexts : ExtTreeMap String ContextEvidence :=
  (∅ : ExtTreeMap String ContextEvidence).insert revocationCtxId revocationContext

def AsOfProjection.retractions (p : AsOfProjection) : List (Option RetractionStage) :=
  p.nodes.map (fun n => n.asOf.bind (·.stages.retraction))

def AsOfProjection.presences (p : AsOfProjection) : List (Option PresenceValue) :=
  p.nodes.map (fun n => n.asOf.map (·.stages.presence.value))

theorem ne_of_map_ne {α β : Type} (f : α → β) (x x' : Option α) (b b' : β) (h : x.map f = some b)
    (h' : x'.map f = some b') (hne : b ≠ b') : ∃ p p', x = some p ∧ x' = some p' ∧ p' ≠ p := by
  obtain ⟨p, hp, rfl⟩ := Option.map_eq_some_iff.mp h
  obtain ⟨p', hp', rfl⟩ := Option.map_eq_some_iff.mp h'
  exact ⟨p, p', hp, hp', fun heq => hne (by rw [heq])⟩

theorem appended_event_changes_projection :
    (∃ p p', (verifyChain eventEnv sampleJcs true [sampleCtxId] (eventHistory [retractedJson])
          sampleOptions).toOption.bind asOfProjection = some p ∧
        (verifyChain eventEnv sampleJcs true [sampleCtxId] (eventHistory [retractedJson, republishedJson])
          sampleOptions).toOption.bind asOfProjection = some p' ∧ p' ≠ p) ∧
      ∃ p p', (verifyChain eventEnv sampleJcs true [revocationCtxId] { sampleEvidence with contexts := ∅ }
          sampleOptions).toOption.bind asOfProjection = some p ∧
        (verifyChain eventEnv sampleJcs true [revocationCtxId] { sampleEvidence with
          contexts := revocationContexts }
          sampleOptions).toOption.bind asOfProjection = some p' ∧ p' ≠ p := by
  constructor
  · exact ne_of_map_ne AsOfProjection.retractions _ _
      [some ⟨.retracted, some 1, some .registry, some "2026-01-20T00:00:00.000Z", none⟩]
      [some ⟨.notRetracted, some 2, some .registry, some "2026-01-20T00:00:00.000Z", none⟩]
      (by decide +kernel) (by decide +kernel) (by decide)
  · exact ne_of_map_ne AsOfProjection.presences _ _ [some .absent] [some .present] (by decide +kernel)
      (by decide +kernel) (by decide)

def laterContext : ContextEvidence where
  body := sampleBodyJson
  registryReceipt := some sampleReceiptJson
  lifecycleEvents := some [retractedJson]
  eventReceipts := none
  logInclusion := none

def laterRecord : DiscoveryRecord where
  vantage := "probe.example"
  outcome := .notRevokedComplete
  completedAt := "2026-03-01T00:00:00.000Z"

def laterEvidence : Evidence :=
  { sampleEvidence with
    contexts := (sampleEvidence.contexts.insert sampleCtxId laterContext).insert revocationCtxId
      revocationContext
    revocationDiscovery :=
      some ((∅ : ExtTreeMap String (List DiscoveryRecord)).insert "did:web:agents.example"
        [laterRecord]) }

def laterJcs : JcsDigest :=
  { sampleJcs with
    evidence := fun e =>
      if e.revocationDiscovery.isNone then
        "sha256:70571be45e4b2351f25419f2b98810606725358760b3259f4deec94344139fdc"
      else "sha256:6ba59b9b94d2e489900de11594a122d42b17191b16de8253c43b57239ab0f5d2"
    verdict := fun v =>
      if v.horizon = none then "sha256:35ef3ba842bcd62b3bd2a544b4beeb6fe6d79002bb7e0166d055f36f3223a1d4"
      else "sha256:e527e417a4bf8c4bbe4e3c24c556179c1ed2b965d3b8870d2ed3402f4fb1fcd1" }

theorem laterEvidence_new (k : String) (ce : ContextEvidence) (hk : sampleEvidence.contexts[k]? = none)
    (hce : laterEvidence.contexts[k]? = some ce) : k = revocationCtxId ∧ ce = revocationContext := by
  simp only [laterEvidence, ExtTreeMap.getElem?_insert, Std.LawfulEqCmp.compare_eq_iff_eq] at hce
  split_ifs at hce with hrevocation hsample
  · exact ⟨hrevocation.symm, (Option.some.inj hce).symm⟩
  · subst hsample
    simp [sampleEvidence] at hk
  · rw [hk] at hce
    cases hce

theorem laterEvidence_extends : sampleEvidence.Extended eventEnv sampleAsOf laterEvidence := by
  have htime : parseTs eventEnv "2026-03-01T00:00:00.000Z" = some (sampleTime 1772323200) := by decide +kernel
  refine {
    didDocuments := rfl
    omitted := rfl
    kept := ?_
    added := ?_
    discovery := ?_
    cosignatures := .nil }
  · intro k ce hce
    simp only [sampleEvidence, ExtTreeMap.getElem?_insert, Std.LawfulEqCmp.compare_eq_iff_eq] at hce
    split_ifs at hce with hk
    · subst hk
      obtain rfl := Option.some.inj hce
      refine ⟨laterContext, ?_, rfl, rfl, rfl, ⟨[retractedJson], rfl⟩, ⟨[], rfl, by simp⟩, ?_⟩
      · have hne : revocationCtxId ≠ sampleCtxId := by decide +kernel
        rw [laterEvidence, ExtTreeMap.getElem?_insert, if_neg (by simpa using hne),
          ExtTreeMap.getElem?_insert_self]
      · intro j v r _ _ hv
        simp at hv
    · simp at hce
  · intro k ce hk hce
    obtain ⟨rfl, rfl⟩ := laterEvidence_new k ce hk hce
    exact ⟨revocationReceiptJson, revocationReceipt, rfl, by rfl, by decide +kernel⟩
  · intro did
    simp only [sampleEvidence, laterEvidence, Option.getD_none, Option.getD_some, ExtTreeMap.getD_insert,
      ExtTreeMap.getD_empty]
    split
    · exact .add laterRecord ⟨sampleTime 1772323200, htime, by decide +kernel⟩ .nil
    · exact .nil

theorem evidence_sealed_sample :
    ∃ v v', verifyChain eventEnv laterJcs true [sampleCtxId] sampleEvidence sampleOptions = .ok v ∧
      verifyChain eventEnv laterJcs true [sampleCtxId] laterEvidence sampleOptions = .ok v' ∧
      asOfProjection v' = asOfProjection v ∧ v'.asOfDigest = v.asOfDigest := by
  obtain ⟨v, hv⟩ :=
    Foundation.Entries.ok_of_isOk (verifyChain eventEnv laterJcs true [sampleCtxId] sampleEvidence
      sampleOptions) (by decide +kernel)
  obtain ⟨v', hv'⟩ :=
    Foundation.Entries.ok_of_isOk (verifyChain eventEnv laterJcs true [sampleCtxId] laterEvidence
      sampleOptions) (by decide +kernel)
  obtain ⟨parsed, -, hparsed, -⟩ := verifyChain_ok eventEnv laterJcs true [sampleCtxId] _ sampleOptions v hv
  refine ⟨v, v', hv, hv', evidence_sealed eventEnv laterJcs true [sampleCtxId] sampleEvidence
    laterEvidence parsed sampleOptions sampleAsOf v v' hparsed rfl rfl laterEvidence_extends ?_ hv hv'⟩
  have hbodies : (sampleEvidence.parse eventEnv).toOption.map (fun parsed => parsed.contexts.toList.map
      (fun p => (p.2.body.derivedFrom, isKeylessKeyId p.2.body.signature.keyId))) = some [([], false)] := by
    decide +kernel
  have hbody (j : String) (pc : ParsedContext) (hpc : parsed.contexts[j]? = some pc) :
      pc.body.derivedFrom = [] ∧ isKeylessKeyId pc.body.signature.keyId = false := by
    have hmem := List.mem_map_of_mem (f := fun p : String × ParsedContext =>
      (p.2.body.derivedFrom, isKeylessKeyId p.2.body.signature.keyId))
      (ExtTreeMap.mem_toList_iff_getElem?_eq_some.mpr hpc)
    rw [hparsed] at hbodies
    have hlist : parsed.contexts.toList.map (fun p => (p.2.body.derivedFrom,
      isKeylessKeyId p.2.body.signature.keyId)) = [([], false)] := Option.some.inj hbodies
    rw [hlist, List.mem_singleton, Prod.mk.injEq] at hmem
    exact hmem
  intro k ce hk hce
  obtain ⟨rfl, -⟩ := laterEvidence_new k ce hk hce
  refine ⟨by decide +kernel, ?_, ?_⟩
  · intro j _ pc hpc
    rw [(hbody j pc hpc).1]
    exact List.not_mem_nil
  · intro j pc reference hpc hkeyless
    rw [(hbody j pc hpc).2] at hkeyless
    cases hkeyless

end Acdp.Chain
