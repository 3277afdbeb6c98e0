import Acdp.Chain.Candidates
import Acdp.Chain.SealedRun

namespace Acdp.Chain

open Acdp.Types
open Acdp.Crypto
open Acdp.Foundation.Entries
open Std (ExtTreeMap)

/-- The carried receipt is one of registry `did` that passes every check but that of its signature, and
the signature names a key of `did`. -/
def Engine.awaitsKey (e : Engine) (key : String) (pc : ParsedContext) (t : DateTime) (did : String) : Bool :=
  pc.receipt.any (fun p => p.1.registryDid == did && namesKeyOf did p.1.signature.keyId &&
    (e.receiptChecked key pc (computeContentHash e.env pc.rawBody).toOption
      ((e.locate pc.body (.asOf t) (e.attested pc.body (.asOf t))).toOption.bind (·.fingerprint))
      p.1 p.2).isSome)

theorem Engine.awaitsKey_receipt (e : Engine) (key : String) (pc : ParsedContext) (t : DateTime)
    (did : String) (h : e.awaitsKey key pc t did) : ∃ r, pc.receipt = some r ∧ r.1.registryDid = did := by
  unfold awaitsKey at h
  rw [Option.any_eq_true] at h
  obtain ⟨r, hr, h⟩ := h
  simp only [Bool.and_eq_true, beq_iff_eq] at h
  exact ⟨r, hr, h.1.1⟩

theorem Engine.keySoughtBy_of_no_candidates (e : Engine) (key : String) (pc : ParsedContext) (t : DateTime)
    (did : String) (hdid : e.keys.candidates did = []) (hkey : ¬ Text.hasPrefix "did:key:" did) :
    e.keySoughtBy key pc t = some did ↔ e.awaitsKey key pc t did := by
  unfold keySoughtBy keySought awaitsKey
  cases pc.receipt with
  | none => simp
  | some p =>
    simp only [Option.bind_eq_bind, Option.bind_some, Option.any_some]
    cases e.receiptChecked key pc (computeContentHash e.env pc.rawBody).toOption
        ((e.locate pc.body (.asOf t) (e.attested pc.body (.asOf t))).toOption.bind (·.fingerprint)) p.1
        p.2 with
    | none => simp
    | some hash =>
      by_cases hregistry : p.1.registryDid = did
      · have hcheck :=
          BundleKeys.check_of_no_candidates e.env e.keys (some t) did hdid hkey p.1.signature hash
        simp [hregistry, hcheck]
      · simp [hregistry]

theorem sealed_of_growsAfter (env : Env) (keyless : Bool) (parsed parsed' : Parsed) (options : Options)
    (t : DateTime) (hgrows : BundleKeys.GrowsAfter t parsed parsed')
    (hcontexts : parsed'.contexts = parsed.contexts)
    (hdiscovery : parsed'.discovery = parsed.discovery)
    (hcheckpoints : parsed'.checkpoints = parsed.checkpoints)
    (homitted : parsed'.omitted = parsed.omitted) :
    Engine.Sealed t (engineOf env keyless parsed options) (engineOf env keyless parsed' options) where
  env := rfl
  keyless := rfl
  pinned := rfl
  requireAttestedEvents := rfl
  keylessAttesters := rfl
  select := BundleKeys.select_grow env t parsed parsed' _ hgrows
  kept := fun k pc hpc => ⟨pc, by rw [← hpc]; exact congrArg (·[k]?) hcontexts, .refl _ _ _⟩
  late := fun k pc' hnone hsome => by
    have : (none : Option ParsedContext) = some pc' := by
      rw [← hnone, ← hsome]
      exact (congrArg (·[k]?) hcontexts).symm
    cases this
  unnamed := fun k pc reference _ _ _ hnone => by
    rw [← hnone]
    exact congrArg (·[reference.ctxId]?) hcontexts
  discovery := fun did => by rw [engineOf, engineOf, hdiscovery]
  cosignatures := by rw [engineOf, engineOf, hcheckpoints]
  omitted := homitted

/-- The as-of half of the verdict survives snapshots observed after `t`, but for the receipts of a registry
whose first snapshot is among them. -/
theorem snapshots_sealed_iff (env : Env) (jcs : JcsDigest) (keyless : Bool) (roots : List String)
    (evidence : Evidence) (parsed : Parsed) (docs : ExtTreeMap String (List DidSnapshot)) (options : Options)
    (t : DateTime) (v v' : ChainVerdict) (hparsed : evidence.parse env = .ok parsed)
    (ht : options.asOf = some t)
    (happended : SnapshotsAppended env t (evidence.didDocuments.getD ∅) docs)
    (hv : verifyChain env jcs keyless roots evidence options = .ok v)
    (hv' : verifyChain env jcs keyless roots { evidence with didDocuments := some docs } options = .ok v') :
    (asOfProjection v' = asOfProjection v ∧ v'.asOfDigest = v.asOfDigest) ↔
      ∀ ctxId pc did, ctxId ∈ (walk roots parsed options.limits (fun _ => false)).depth →
        ctxId ∉ cycleNodes (walk roots parsed options.limits (fun _ => false)) →
        parsed.contexts[ctxId]? = some pc → (engineOf env keyless parsed options).awaitsKey ctxId pc t did →
        (evidence.didDocuments.getD ∅).getD did [] = [] →
        (∀ s ∈ (options.pinned.getD .default).snapshots, s.did ≠ did) → docs.getD did [] = [] := by
  obtain ⟨parsed₁, hoptions, hparsed₁, rfl⟩ := verifyChain_ok env jcs keyless roots _ options v hv
  obtain ⟨parsed', -, hparsed', rfl⟩ := verifyChain_ok env jcs keyless roots _ options v' hv'
  rw [hparsed] at hparsed₁
  obtain rfl := Except.ok.inj hparsed₁
  have haccepted := Evidence.parse_ok env evidence parsed hparsed
  have haccepted' := Evidence.parse_ok env _ parsed' hparsed'
  have hcontexts : parsed'.contexts = parsed.contexts :=
    Except.ok.inj (haccepted'.contexts.symm.trans haccepted.contexts)
  have hdiscovery : parsed'.discovery = parsed.discovery :=
    Except.ok.inj (haccepted'.discovery.symm.trans haccepted.discovery)
  have hcheckpoints : parsed'.checkpoints = parsed.checkpoints :=
    Except.ok.inj (haccepted'.checkpoints.symm.trans haccepted.checkpoints)
  have homitted : parsed'.omitted = parsed.omitted := haccepted'.omitted.trans haccepted.omitted.symm
  have hgrows := growsAfter_of_appended env t _ docs parsed parsed' happended haccepted.snapshots
    haccepted'.snapshots
  have hsealed := sealed_of_growsAfter env keyless parsed parsed' options t hgrows hcontexts hdiscovery
    hcheckpoints homitted
  have hwalk : walk roots parsed' options.limits (fun _ => false) =
      walk roots parsed options.limits (fun _ => false) := by
    have hsuccessors : parsed'.successors = parsed.successors := by
      funext node
      rw [Parsed.successors, Parsed.successors, hcontexts]
    rw [walk, walk, hsuccessors]
  have hprojection :=
    hsealed.asOfProjection_iff jcs evidence { evidence with didDocuments := some docs } options ht
      (walk roots parsed options.limits (fun _ => false))
      (fun k _ hnone => (congrArg (·[k]?) hcontexts).trans hnone)
  have hkey (did : String) (hdocs : docs.getD did [] ≠ []) : ¬ Text.hasPrefix "did:key:" did :=
    not_didKey_of_parseSnapshots env docs _ haccepted'.snapshots did hdocs
  have hnil (did : String) := candidates_eq_nil env keyless _ parsed options hoptions haccepted did
  have hnil' (did : String) := candidates_eq_nil env keyless _ parsed' options hoptions haccepted' did
  rw [hwalk]
  constructor
  · rintro ⟨hsame, -⟩ ctxId pc did hdepth hcycle hpc hawaits hnone hpins
    by_contra hdocs
    have hcandidates := (hnil did).mpr ⟨hnone, hpins⟩
    have hsought := (Engine.keySoughtBy_of_no_candidates _ ctxId pc t did hcandidates (hkey did hdocs)).mpr
      hawaits
    refine (BundleKeys.onlyAfter_grow env t parsed parsed' _ hgrows did).mp
      (hprojection.mp hsame ctxId hdepth pc did hcycle hpc hsought) ⟨hcandidates, ?_⟩
    exact fun hempty => hdocs ((hnil' did).mp hempty).1
  · intro hall
    have hsame := hprojection.mpr (fun ctxId hdepth pc did hcycle hpc hsought => by
      refine (BundleKeys.onlyAfter_grow env t parsed parsed' _ hgrows did).mpr ?_
      rintro ⟨hcandidates, hcandidates'⟩
      obtain ⟨hnone, hpins⟩ := (hnil did).mp hcandidates
      have hdocs : docs.getD did [] ≠ [] := fun hempty => hcandidates' ((hnil' did).mpr ⟨hempty, hpins⟩)
      have hawaits := (Engine.keySoughtBy_of_no_candidates _ ctxId pc t did hcandidates (hkey did hdocs)).mp
        hsought
      exact hdocs (hall ctxId pc did hdepth hcycle hpc hawaits hnone hpins))
    refine ⟨hsame, ?_⟩
    rw [Engine.asOfDigest_verdict, Engine.asOfDigest_verdict, hsame]

def sampleTime (seconds : ℕ) (h : seconds ≤ 2000000000 := by decide) : DateTime :=
  ⟨seconds * 1000000000, by omega, by omega⟩

def sampleTimes : List (String × DateTime) :=
  [("2026-01-01T00:00:00.000Z", sampleTime 1767225600), ("2026-01-10T09:00:00.000Z", sampleTime 1768035600),
    ("2026-01-20T00:00:00.000Z", sampleTime 1768867200), ("2026-02-01T00:00:00.000Z", sampleTime 1769904000),
    ("2026-03-01T00:00:00.000Z", sampleTime 1772323200)]

def sampleAsOf : DateTime := sampleTime 1769904000

mutual

def canonicalBytes : Json → List UInt8
  | .null => utf8 "null"
  | .bool b => utf8 (if b then "true" else "false")
  | .num (.posInt n) => utf8 (toString n.toNat)
  | .num _ => []
  | .str s => 34 :: utf8 s ++ [34]
  | .arr items => 91 :: [44].intercalate (canonicalItems items) ++ [93]
  | .obj members => 123 :: [44].intercalate (canonicalMembers members) ++ [125]

def canonicalItems : List Json → List (List UInt8)
  | [] => []
  | item :: rest => canonicalBytes item :: canonicalItems rest

def canonicalMembers : List (String × Json) → List (List UInt8)
  | [] => []
  | (key, value) :: rest => (34 :: utf8 key ++ 34 :: 58 :: canonicalBytes value) :: canonicalMembers rest

end

def sampleCtxId : CtxId := "acdp://registry.example/6b1e3f0a-8d2c-4c55-9f3e-0a7d5c1b2e44"

def sampleLineage : LineageId := "lin:sha256:724919934658c08d263199d08f86b25eb56398cb6fd675cfc2ba067d2c89f62e"

def sampleHash : ContentHash := "sha256:db6cc9decefe502c727320d1588812ab07d6cdf55cffe7f14f06a3621ad56852"

def sampleFingerprint : String := "sha256:752838c892498092aa20847e9043de321f124afd6a64656f5540b36cc777cd7b"

def signatureJson (s : Signature) : Json :=
  .obj [("algorithm", .str s.algorithm), ("key_id", .str s.keyId), ("value", .str s.value)]

def sampleBody : Body where
  ctxId := sampleCtxId
  lineageId := sampleLineage
  originRegistry := "registry.example"
  createdAt := sampleTime 1768035600
  contentHash := sampleHash
  signature := ⟨"ed25519", "did:web:agents.example#k1",
    "WuRWqgBxc/e/Rl6UGKJmmCyEoYvdHOiOhyZgZi3EgldTfIElTOgA9XgFHO0krbjNR8ZCCCRHvRBOSt9NlbE8Cg=="⟩
  version := 1
  supersedes := none
  agentId := "did:web:agents.example"
  contributors := []
  title := "Sea level"
  contextType := .analysis
  dataRefs := []
  derivedFrom := []
  visibility := .public
  audience := none
  acdpVersion := none
  description := none
  summary := none
  tags := none
  domain := none
  expiresAt := none
  dataPeriod := none
  metadata := none
  schemaUri := none
  anchors := none
  extensions := []

def sampleBodyJson : Json :=
  .obj [("agent_id", .str "did:web:agents.example"), ("content_hash", .str sampleHash),
    ("contributors", .arr []), ("created_at", .str "2026-01-10T09:00:00.000Z"), ("ctx_id", .str sampleCtxId),
    ("data_refs", .arr []),
    ("derived_from", .arr []), ("lineage_id", .str sampleLineage),
    ("origin_registry", .str "registry.example"),
    ("signature", signatureJson sampleBody.signature), ("supersedes", .null), ("title", .str "Sea level"),
    ("type", .str "analysis"), ("version", .num (.posInt 1)), ("visibility", .str "public")]

def sampleReceipt : RegistryReceipt where
  registryDid := "did:web:registry.example"
  ctxId := sampleCtxId
  lineageId := sampleLineage
  originRegistry := "registry.example"
  createdAt := sampleTime 1768035600
  contentHash := sampleHash
  keyFingerprint := sampleFingerprint
  signature := ⟨"ed25519", "did:web:registry.example#k1",
    "lSxXQOfXK5gEweUZgoH9leugZhMSHeDhuQbEm+WVu8nIV+VpRqOKO9Y+fRMEQRgl5MJT8jbv6uyO9NlIsVWGAw=="⟩

def sampleReceiptJson : Json :=
  .obj [("content_hash", .str sampleHash), ("created_at", .str "2026-01-10T09:00:00.000Z"),
    ("ctx_id", .str sampleCtxId), ("key_fingerprint", .str sampleFingerprint),
    ("lineage_id", .str sampleLineage),
    ("origin_registry", .str "registry.example"), ("registry_did", .str "did:web:registry.example"),
    ("signature", signatureJson sampleReceipt.signature)]

def sampleDigest (hex : String) : Merkle.Digest :=
  (sizedBytes 32 (hexPairs hex.toList)).getD (Vector.replicate 32 0)

def sampleSha256 (bytes : List UInt8) : Merkle.Digest :=
  if bytes = utf8 sampleCtxId then
    sampleDigest "724919934658c08d263199d08f86b25eb56398cb6fd675cfc2ba067d2c89f62e"
  else if bytes = canonicalBytes
    (.obj [("agent_id", .str "did:web:agents.example"), ("contributors", .arr []),
      ("data_refs", .arr []), ("derived_from", .arr []), ("supersedes", .null), ("title", .str "Sea level"),
      ("type", .str "analysis"), ("version", .num (.posInt 1)), ("visibility", .str "public")]) then
    sampleDigest "db6cc9decefe502c727320d1588812ab07d6cdf55cffe7f14f06a3621ad56852"
  else if bytes = canonicalBytes (.obj (removeKeys ["signature"] (sampleReceiptJson.asObject.getD []))) then
    sampleDigest "2da12975150d65530b16d2b4f3e8b8cf2177b8c4154d1a8575a5de1022047db6"
  else sampleDigest ""

def sampleDocument (did : String) : DidDocument where
  id := did
  verificationMethods := []
  assertionMethod := []
  services := []

def sampleEnv : Env where
  leafToValue := fun _ => .error (.invalidLogProof "no leaf")
  leafDeserialize := fun _ => .error "no leaf"
  parseFromRfc3339 := fun raw => (sampleTimes.lookup raw).elim (.error "input is out of range") .ok
  canonicalize := fun value => .ok (canonicalBytes value)
  sha256 := sampleSha256
  usizeBits := 64
  bodyDeserialize :=
    fun value => if (value.get "title").isSome then .ok sampleBody else .error "missing field `title`"
  receiptDeserialize := fun value =>
    if (value.get "ctx_id").isSome then .ok sampleReceipt else .error "missing field `ctx_id`"
  eventDeserialize := fun _ => .error "no event"
  eventReceiptDeserialize := fun _ => .error "no event receipt"
  checkpointDeserialize := fun _ => .error "no checkpoint"
  inclusionDeserialize := fun _ => .error "no inclusion"
  cosignatureDeserialize := fun _ => .error "no cosignature"
  didDocumentDeserialize := fun value =>
    ((value.get "id").bind Json.asStr).elim (.error "missing field `id`")
      (fun did => .ok (sampleDocument did))
  attestationRefDeserialize := fun _ => .error "no reference"
  attestationDeserialize := fun _ => .error "no attestation"
  identityDeserialize := fun _ => .error "no identity"
  fmtRfc3339Ms := fun time => ((sampleTimes.find? (fun p => p.2 = time)).map Prod.fst).getD ""
  display := fun time => ((sampleTimes.find? (fun p => p.2 = time)).map Prod.fst).getD ""
  base64UrlDecode := fun _ => .error "no key"
  base58Decode := fun _ => .error "no key"
  p256Compressed := fun _ => .error "no key"
  verifyEd25519 := fun _ _ _ => .error (.invalidSignature "signature verification failed")
  verifyEcdsaP256 := fun _ _ _ => .error (.invalidSignature "signature verification failed")
  validateBodySchema := fun _ => .ok ()

def sampleJcs : JcsDigest where
  pinned := fun _ => "sha256:44136fa355b3678a1146ad16f7e8649e94fb4fc21fe77e8310c060f61caaff8a"
  evidence := fun e =>
    if e.didDocuments.isNone then "sha256:70571be45e4b2351f25419f2b98810606725358760b3259f4deec94344139fdc"
    else "sha256:cc8ab63219d61d9bf636da3b8f7696419444868eb6b5d26b473c51f52f5d98bc"
  projection := fun _ => "sha256:1ff2df9a70afb7658a63ef380623c049af19b2aef6b76ea51a0deaa460d5d43f"
  verdict := fun v =>
    if v.horizon = none then "sha256:35ef3ba842bcd62b3bd2a544b4beeb6fe6d79002bb7e0166d055f36f3223a1d4"
    else "sha256:fb5eb7221ed18596776fe8b3d2cd85940b1a555828ce7b0ca5220465fd62a27f"

def sampleEvidence : Evidence where
  evidenceVersion := evidenceVersion
  roots := none
  exportedAt := none
  contexts := (∅ : ExtTreeMap String ContextEvidence).insert sampleCtxId {
    body := sampleBodyJson
    registryReceipt := some sampleReceiptJson
    lifecycleEvents := none
    eventReceipts := none
    logInclusion := none }
  didDocuments := none
  revocationDiscovery := none
  checkpoints := none
  consistencyProofs := none
  omitted := none
  annotations := ∅

def sampleOptions : Options := { Options.default with asOf := some sampleAsOf }

def sampleDocs (did : String) : ExtTreeMap String (List DidSnapshot) :=
  (∅ : ExtTreeMap String (List DidSnapshot)).insert did [{
    document := [("id", .str did)]
    observedAt := "2026-03-01T00:00:00.000Z"
    observedBy := none
    source := none }]

theorem sampleDocs_appended (did : String) :
    SnapshotsAppended sampleEnv sampleAsOf (sampleEvidence.didDocuments.getD ∅) (sampleDocs did) := by
  have htime : parseTs sampleEnv "2026-03-01T00:00:00.000Z" =
    some (sampleTime 1772323200) := by decide +kernel
  intro queried
  refine ⟨(sampleDocs did).getD queried [], by simp [sampleEvidence], ?_⟩
  intro s hs
  rw [sampleDocs, ExtTreeMap.getD_insert] at hs
  split at hs
  · obtain rfl := List.mem_singleton.mp hs
    exact ⟨sampleTime 1772323200, htime, by decide +kernel⟩
  · simp at hs

def AsOfProjection.receiptReasons (p : AsOfProjection) : List (Option String) :=
  p.nodes.map (fun n => n.asOf.bind (fun pass => pass.stages.registryReceipt.bind (·.reason)))

theorem first_snapshot_changes_projection :
    SnapshotsAppended sampleEnv sampleAsOf (sampleEvidence.didDocuments.getD ∅)
        (sampleDocs "did:web:registry.example") ∧
      ∃ p p', (verifyChain sampleEnv sampleJcs true [sampleCtxId] sampleEvidence sampleOptions).toOption.bind
            asOfProjection = some p ∧
        (verifyChain sampleEnv sampleJcs true [sampleCtxId]
            { sampleEvidence with didDocuments := some (sampleDocs "did:web:registry.example") }
            sampleOptions).toOption.bind asOfProjection = some p' ∧ p' ≠ p := by
  have hbefore : ((verifyChain sampleEnv sampleJcs true [sampleCtxId] sampleEvidence
    sampleOptions).toOption.bind asOfProjection).map AsOfProjection.receiptReasons =
    some [none] := by decide +kernel
  have hafter : ((verifyChain sampleEnv sampleJcs true [sampleCtxId]
      { sampleEvidence with didDocuments := some (sampleDocs "did:web:registry.example") }
      sampleOptions).toOption.bind asOfProjection).map AsOfProjection.receiptReasons =
        some [some reasonNoEvidenceAtAsOf] := by decide +kernel
  obtain ⟨p, hp, hreasons⟩ := Option.map_eq_some_iff.mp hbefore
  obtain ⟨p', hp', hreasons'⟩ := Option.map_eq_some_iff.mp hafter
  refine ⟨sampleDocs_appended _, p, p', hp, hp', ?_⟩
  rintro rfl
  rw [hreasons] at hreasons'
  simp at hreasons'

theorem snapshots_sealed_iff_sample :
    ∃ v v', verifyChain sampleEnv sampleJcs true [sampleCtxId] sampleEvidence sampleOptions = .ok v ∧
      verifyChain sampleEnv sampleJcs true [sampleCtxId]
        { sampleEvidence with didDocuments := some (sampleDocs "did:web:agents.example") } sampleOptions =
          .ok v' ∧
      asOfProjection v' = asOfProjection v ∧ v'.asOfDigest = v.asOfDigest := by
  obtain ⟨v, hv⟩ :=
    Foundation.Entries.ok_of_isOk (verifyChain sampleEnv sampleJcs true [sampleCtxId] sampleEvidence
      sampleOptions) (by decide +kernel)
  obtain ⟨v', hv'⟩ := Foundation.Entries.ok_of_isOk (verifyChain sampleEnv sampleJcs true [sampleCtxId]
    { sampleEvidence with didDocuments := some (sampleDocs "did:web:agents.example") } sampleOptions)
    (by decide +kernel)
  obtain ⟨parsed, -, hparsed, -⟩ := verifyChain_ok sampleEnv sampleJcs true [sampleCtxId] _ sampleOptions v hv
  refine ⟨v, v', hv, hv', (snapshots_sealed_iff sampleEnv sampleJcs true [sampleCtxId] sampleEvidence parsed
    (sampleDocs "did:web:agents.example") sampleOptions sampleAsOf v v' hparsed rfl (sampleDocs_appended _) hv
    hv').mpr ?_⟩
  have hregistries : (sampleEvidence.parse sampleEnv).toOption.map (fun parsed => parsed.contexts.toList.map
      (fun p => p.2.receipt.map (·.1.registryDid))) =
      some [some "did:web:registry.example"] := by decide +kernel
  intro ctxId pc did _ _ hpc hawaits _ _
  have hmem := List.mem_map_of_mem (f := fun p : String × ParsedContext => p.2.receipt.map (·.1.registryDid))
    (ExtTreeMap.mem_toList_iff_getElem?_eq_some.mpr hpc)
  rw [hparsed] at hregistries
  have hlist : parsed.contexts.toList.map (fun p => p.2.receipt.map (·.1.registryDid)) =
    [some "did:web:registry.example"] := Option.some.inj hregistries
  obtain ⟨r, hr, rfl⟩ := Engine.awaitsKey_receipt _ ctxId pc sampleAsOf did hawaits
  rw [hlist, List.mem_singleton, hr, Option.map_some] at hmem
  rw [Option.some.inj hmem]
  decide +kernel

end Acdp.Chain
