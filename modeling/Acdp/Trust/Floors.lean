import Acdp.Foundation.Transition
import Acdp.Trust.Run

namespace Acdp.Trust

open Acdp.Types
open Acdp.Chain (ChainVerdict PassAt)
open Acdp.Foundation.Transition
open Std (ExtTreeMap)

section Floor

theorem get_insert_floor (floors : Floors) (k a : String ×ₗ String) (n : ℕ) :
    (floors.insert k n)[a]? = if k = a then some n else floors[a]? := by
  rw [ExtTreeMap.getElem?_insert]
  simp only [Std.LawfulEqCmp.compare_eq_iff_eq]

theorem advanceFloor_eq_none_iff (floor : Option ℕ) (versions : List ListVersion) :
    advanceFloor floor versions = none ↔ floor = none ∧ versions = [] := by
  rw [advanceFloor, List.max?_eq_none_iff, List.append_eq_nil_iff, List.map_eq_nil_iff,
    Option.toList_eq_nil_iff, and_comm]

theorem le_advanceFloor (floor : Option ℕ) (versions : List ListVersion) (f : ℕ)
    (h : advanceFloor floor versions = some f) :
    (∀ n, floor = some n → n ≤ f) ∧ ∀ v ∈ versions, v.list.serial ≤ f := by
  obtain ⟨-, hmax⟩ := List.max?_eq_some_iff.mp h
  refine ⟨fun n hn => hmax n ?_, fun v hv => hmax _ (List.mem_append_left _ (List.mem_map_of_mem hv))⟩
  exact List.mem_append_right _ (by simp [hn])

theorem advanceFloor_mem (floor : Option ℕ) (versions : List ListVersion) (f : ℕ)
    (h : advanceFloor floor versions = some f) : floor = some f ∨ ∃ v ∈ versions, v.list.serial = f := by
  obtain ⟨hmem, -⟩ := List.max?_eq_some_iff.mp h
  rcases List.mem_append.mp hmem with hmem | hmem
  · obtain ⟨v, hv, heq⟩ := List.mem_map.mp hmem
    exact .inr ⟨v, hv, heq⟩
  · exact .inl (by simpa using hmem)

theorem selectVersion_pin (pin : IssuerPin) (versions : List ListVersion) (t : DateTime) (pass : TrustPass)
    (floor : Option ℕ) : (selectVersion pin versions t pass floor).pin = pin := by
  unfold selectVersion
  dsimp only
  split
  · rfl
  split
  · rfl
  split
  · rfl
  split
  · rfl
  split
  · rfl
  split <;> rfl

theorem le_serial_of_selected (pin : IssuerPin) (versions : List ListVersion) (t : DateTime)
    (floor : Option ℕ) (v : ListVersion) (h : (selectVersion pin versions t .latest floor).version = some v)
    (f : ℕ)
    (hf : floor = some f) : f ≤ v.list.serial := by
  unfold selectVersion at h
  dsimp only at h
  split at h
  · cases h
  next top _ =>
    split at h
    · cases h
    next hfloor =>
      have hle : f ≤ top := by
        rw [hf] at hfloor
        simpa using hfloor
      split at h
      · cases h
      split at h
      · cases h
      split at h
      · cases h
      next selected hselected =>
        have hmem : selected ∈ (held versions t .latest).filter (fun v => v.list.serial = top) := by
          rcases Option.or_eq_some_iff.mp hselected with hfind | ⟨-, hhead⟩
          · exact List.mem_of_find?_eq_some hfind
          · exact List.mem_of_mem_head? hhead
        have hserial : selected.list.serial = top := by simpa using (List.mem_filter.mp hmem).2
        have hv : selected = v := by
          split at h <;> exact Option.some.inj h
        rw [← hv, hserial]
        exact hle

end Floor

namespace Run

variable (r : Run) (opts : TrustOptions)

/-- The pin whose floor stays in the map: the last one of the series that has one. -/
def deciding (series : String ×ₗ String) (pins : List IssuerPin) : Option IssuerPin :=
  pins.reverse.find? (fun q => q.series = series ∧
    (opts.floors[series]?.isSome ∨ r.validFor opts.pins .latest q ≠ []))

theorem get_floors (digest : TrustReport → String) (verdict : ChainVerdict) (series : String ×ₗ String) :
    (r.evaluate digest verdict opts).floors[series]? =
      match r.deciding opts series opts.pins with
      | some q => advanceFloor opts.floors[series]? (r.validFor opts.pins .latest q)
      | none => opts.floors[series]? := by
  have hzip : opts.pins.zip (r.versions .latest opts.pins) =
      opts.pins.map (fun pin => (pin, r.validFor opts.pins .latest pin)) := by
    have hmap := List.zip_map' (f := id) (g := r.validFor opts.pins .latest) (l := opts.pins)
    rwa [List.map_id] at hmap
  change ((opts.pins.zip (r.versions .latest opts.pins)).foldl (advance opts.floors) opts.floors)[series]? = _
  rw [hzip, List.foldl_map]
  refine foldl_invariant
    (fun floors pin => advance opts.floors floors (pin, r.validFor opts.pins .latest pin))
    (fun done floors => floors[series]? =
      match r.deciding opts series done with
      | some q => advanceFloor opts.floors[series]? (r.validFor opts.pins .latest q)
      | none => opts.floors[series]?) (fun done pin floors h => ?_) opts.pins [] opts.floors rfl
  have hdeciding : r.deciding opts series (done ++ [pin]) =
      if pin.series = series ∧ (opts.floors[series]?.isSome ∨ r.validFor opts.pins .latest pin ≠ []) then
        some pin
      else r.deciding opts series done := by
    rw [deciding, List.reverse_append, List.reverse_singleton, List.singleton_append, List.find?_cons]
    split
    next hpin => rw [if_pos (by simpa using hpin)]
    next hpin => rw [if_neg (by simpa using hpin), deciding]
  rw [hdeciding, advance]
  by_cases hseries : pin.series = series
  · subst hseries
    cases hfloor : advanceFloor opts.floors[pin.series]? (r.validFor opts.pins .latest pin) with
    | none =>
      obtain ⟨hnone, hempty⟩ := (advanceFloor_eq_none_iff _ _).mp hfloor
      rw [if_neg (by simp [hnone, hempty])]
      exact h
    | some f =>
      have hsome : opts.floors[pin.series]?.isSome ∨ r.validFor opts.pins .latest pin ≠ [] := by
        by_contra hnot
        rw [not_or, not_not, Option.not_isSome_iff_eq_none] at hnot
        rw [(advanceFloor_eq_none_iff _ _).mpr hnot] at hfloor
        cases hfloor
      rw [if_pos ⟨rfl, hsome⟩]
      dsimp only
      rw [get_insert_floor, if_pos rfl, hfloor]
  · rw [if_neg (fun hpin => hseries hpin.1)]
    dsimp only
    split
    · rw [get_insert_floor, if_neg hseries]
      exact h
    · exact h

/-- The floors that a run returns are no lower than the given ones and cover what the run selects. -/
structure Protected (floors : Floors) : Prop where
  persisted : ∀ pin ∈ opts.pins, ∀ f, opts.floors[pin.series]? = some f →
    ∃ g, floors[pin.series]? = some g ∧ f ≤ g
  valid : ∀ pin ∈ opts.pins, ∀ v ∈ r.validFor opts.pins .latest pin,
    ∃ g, floors[pin.series]? = some g ∧ v.list.serial ≤ g

/-- No pin holds a version above both the persisted floor and what the deciding pin of its series holds. -/
def NoneShadowed : Prop :=
  ∀ pin ∈ opts.pins, ∀ v ∈ r.validFor opts.pins .latest pin,
    (∃ f, opts.floors[pin.series]? = some f ∧ v.list.serial ≤ f) ∨
    ∃ q, r.deciding opts pin.series opts.pins = some q ∧
      ∃ v' ∈ r.validFor opts.pins .latest q, v.list.serial ≤ v'.list.serial

section Protect

variable (digest : TrustReport → String) (verdict : ChainVerdict)

theorem le_floors (series : String ×ₗ String) (f : ℕ) (hf : opts.floors[series]? = some f) :
    ∃ g, (r.evaluate digest verdict opts).floors[series]? = some g ∧ f ≤ g := by
  rw [get_floors]
  split
  next q _ =>
    cases hfloor : advanceFloor opts.floors[series]? (r.validFor opts.pins .latest q) with
    | none =>
      rw [((advanceFloor_eq_none_iff _ _).mp hfloor).1] at hf
      cases hf
    | some g => exact ⟨g, rfl, (le_advanceFloor _ _ g hfloor).1 f hf⟩
  next => exact ⟨f, hf, le_rfl⟩

theorem protected_iff : r.Protected opts (r.evaluate digest verdict opts).floors ↔ r.NoneShadowed opts := by
  constructor
  · intro h pin hpin v hv
    obtain ⟨g, hg, hle⟩ := h.valid pin hpin v hv
    rw [get_floors] at hg
    split at hg
    next q hq =>
      rcases advanceFloor_mem _ _ g hg with hfloor | ⟨v', hv', heq⟩
      · exact .inl ⟨g, hfloor, hle⟩
      · exact .inr ⟨q, hq, v', hv', heq ▸ hle⟩
    next => exact .inl ⟨g, hg, hle⟩
  · intro h
    refine ⟨fun pin _ f hf => r.le_floors opts digest verdict pin.series f hf, fun pin hpin v hv => ?_⟩
    rcases h pin hpin v hv with ⟨f, hf, hle⟩ | ⟨q, hq, v', hv', hle⟩
    · obtain ⟨g, hg, hfg⟩ := r.le_floors opts digest verdict pin.series f hf
      exact ⟨g, hg, hle.trans hfg⟩
    · cases hfloor : advanceFloor opts.floors[pin.series]? (r.validFor opts.pins .latest q) with
      | none =>
        rw [((advanceFloor_eq_none_iff _ _).mp hfloor).2] at hv'
        cases hv'
      | some g =>
        refine ⟨g, ?_, hle.trans ((le_advanceFloor _ _ g hfloor).2 v' hv')⟩
        rw [get_floors, hq]
        exact hfloor

end Protect

end Run

structure Session where
  run : Run
  verdict : ChainVerdict
  options : TrustOptions

namespace Session

variable (digest : TrustReport → String)

def trust (floors : Floors) (s : Session) : ChainTrust :=
  s.run.evaluate digest s.verdict (s.options.withFloors floors)

def floorsAfter (floors : Floors) (sessions : List Session) : Floors :=
  sessions.foldl (fun floors s => (s.trust digest floors).floors) floors

theorem le_floorsAfter (sessions : List Session) (floors : Floors) (series : String ×ₗ String) (f : ℕ)
    (hf : floors[series]? = some f) : ∃ g, (floorsAfter digest floors sessions)[series]? =
      some g ∧ f ≤ g := by
  induction sessions generalizing floors f with
  | nil => exact ⟨f, hf, le_rfl⟩
  | cons s sessions ih =>
    obtain ⟨g, hg, hle⟩ := s.run.le_floors (s.options.withFloors floors) digest s.verdict series f hf
    obtain ⟨g', hg', hle'⟩ := ih _ g hg
    exact ⟨g', hg', hle.trans hle'⟩

end Session

/-- A run protects its pins exactly if none of their versions is shadowed, and what it protects is never
rolled back: whatever runs lie between, a later one selects nothing older for a pin on the series. -/
theorem floors_protect_iff (digest : TrustReport → String) :
    (∀ (r : Run) (verdict : ChainVerdict) (opts : TrustOptions),
      r.Protected opts (r.evaluate digest verdict opts).floors ↔ r.NoneShadowed opts) ∧
    ∀ (floors : Floors) (before between : List Session) (s later : Session),
      s.run.NoneShadowed (s.options.withFloors (Session.floorsAfter digest floors before)) →
      ∀ pin ∈ s.options.pins, ∀ v ∈ s.run.validFor s.options.pins .latest pin,
      ∀ state ∈ (later.trust digest (Session.floorsAfter digest floors (before ++ s :: between))).latestPins,
        state.pin.series = pin.series → ∀ selected, state.version = some selected →
          v.list.serial ≤ selected.list.serial := by
  refine ⟨fun r verdict opts => r.protected_iff opts digest verdict, ?_⟩
  intro floors before between s later hnone pin hpin v hv state hstate hseries selected hselected
  obtain ⟨g, hg, hle⟩ := ((s.run.protected_iff _ digest s.verdict).mpr hnone).valid pin hpin v hv
  obtain ⟨g', hg', hle'⟩ := Session.le_floorsAfter digest between _ pin.series g hg
  have hafter : Session.floorsAfter digest floors (before ++ s :: between) =
      Session.floorsAfter digest (s.trust digest (Session.floorsAfter digest floors before)).floors
      between := by
    rw [Session.floorsAfter, List.foldl_append, List.foldl_cons]
    rfl
  obtain ⟨⟨q, vs⟩, hq, rfl⟩ := List.mem_map.mp hstate
  rw [selectVersion_pin] at hseries
  have hfloor := le_serial_of_selected q vs _ _ selected hselected g' (by
    change (Session.floorsAfter digest floors (before ++ s :: between))[q.series]? = _
    rw [hseries, hafter]
    exact hg')
  exact hle.trans (hle'.trans hfloor)

section Shadowed

def issuerDid : String := "did:key:z6MksLcYWSSupyw2wa3K1Z8JjcvBdXF8ZPJWbmsF7ZpJPXkG"

def listCtxId : CtxId := "acdp://registry.example/6b1e3f0a-8d2c-4c55-9f3e-0a7d5c1b2e44"

def listTime (seconds : ℤ) (h : 0 ≤ seconds ∧ seconds ≤ 4000000000 := by decide) : DateTime :=
  ⟨seconds * 1000000000, by omega, by omega⟩

def listMetadata : Json :=
  .obj [("entries", .arr []), ("issued_at", .str "2026-02-01T00:00:00.000Z"), ("list_id", .str "main"),
    ("serial", .num (.posInt 2)), ("trust_list_version", .str "acdp-trust-list/1"),
    ("valid_from", .str "2026-02-01T00:00:00.000Z"), ("valid_until", .str "2026-03-01T00:00:00.000Z")]

def listBody : Body where
  ctxId := listCtxId
  lineageId := "lin:sha256:724919934658c08d263199d08f86b25eb56398cb6fd675cfc2ba067d2c89f62e"
  originRegistry := "registry.example"
  createdAt := listTime 1769904000
  contentHash := "sha256:5968aaecd0a975a2112d447f01485c6b2efd7299d969cfccda3bfb16a4746efa"
  signature := ⟨"ed25519",
    "did:key:z6MksLcYWSSupyw2wa3K1Z8JjcvBdXF8ZPJWbmsF7ZpJPXkG" ++
      "#z6MksLcYWSSupyw2wa3K1Z8JjcvBdXF8ZPJWbmsF7ZpJPXkG",
    "bQ8Cd+ihr+dK/Va/aY9r1JkYdoO5SypoG/Cuq6Hig9EVKAd9l1Ra/bIFyX32i1cYX2zTHwlHfeZPEvK4Cr1vBQ=="⟩
  version := 1
  supersedes := none
  agentId := issuerDid
  contributors := []
  title := "List"
  contextType := .custom trustListType
  dataRefs := []
  derivedFrom := []
  visibility := .public
  audience := none
  acdpVersion := none
  description := none
  summary := none
  tags := none
  domain := none
  expiresAt := none
  dataPeriod := none
  metadata := some listMetadata
  schemaUri := none
  anchors := none
  extensions := []

def listBodyJson : Json :=
  .obj [("agent_id", .str issuerDid), ("content_hash", .str listBody.contentHash), ("contributors", .arr []),
    ("created_at", .str "2026-02-01T00:00:00.000Z"), ("ctx_id", .str listCtxId), ("data_refs", .arr []),
    ("derived_from", .arr []), ("lineage_id", .str listBody.lineageId), ("metadata", listMetadata),
    ("origin_registry", .str "registry.example"),
    ("signature", .obj [("algorithm", .str listBody.signature.algorithm),
    ("key_id", .str listBody.signature.keyId), ("value", .str listBody.signature.value)]),
    ("supersedes", .null), ("title", .str "List"), ("type", .str trustListType),
    ("version", .num (.posInt 1)),
    ("visibility", .str "public")]

def listText : String :=
  "\x7b\"agent_id\":\"" ++ issuerDid ++ "\",\"contributors\":[],\"data_refs\":[],\"derived_from\":[]," ++
  "\"metadata\":\x7b\"entries\":[],\"issued_at\":\"2026-02-01T00:00:00.000Z\",\"list_id\":\"main\"," ++
  "\"serial\":2,\"trust_list_version\":\"acdp-trust-list/1\",\"valid_from\":\"2026-02-01T00:00:00.000Z\"," ++
  "\"valid_until\":\"2026-03-01T00:00:00.000Z\"\x7d,\"supersedes\":null,\"title\":\"List\"," ++
  "\"type\":\"acdp:trust-list\",\"version\":1,\"visibility\":\"public\"\x7d"

def issuerKey : List UInt8 :=
  [191, 116, 10, 204, 200, 163, 138, 132, 92, 185, 178, 204, 237, 199, 69, 239, 6, 44, 202, 219, 70,
    175, 48, 85, 50, 48, 47, 253, 182, 27, 66, 229]

def listSha256 : List UInt8 → Vector UInt8 32
  | 123 :: _ =>
    #v[89, 104, 170, 236, 208, 169, 117, 162, 17, 45, 68, 127, 1, 72, 92, 107, 46, 253, 114, 153, 217, 105,
      207, 204, 218, 59, 251, 22, 164, 116, 110, 250]
  | 97 :: _ =>
    #v[114, 73, 25, 147, 70, 88, 192, 141, 38, 49, 153, 208, 143, 134, 178, 94, 181, 99, 152, 203, 111, 214,
      117, 207, 194, 186, 6, 125, 44, 137, 246, 46]
  | _ =>
    #v[25, 228, 82, 112, 86, 247, 69, 204, 227, 75, 64, 93, 253, 134, 251, 152, 128, 14, 34, 33,
      99, 180, 46, 141, 50, 32, 182, 216, 131, 174, 166, 2]

def listTimes : List (String × DateTime) :=
  [("2026-02-01T00:00:00.000Z", listTime 1769904000), ("2026-03-01T00:00:00.000Z", listTime 1772323200)]

def listEnv : TrustEnv where
  leafToValue := fun _ => .error (.invalidLogProof "no leaf")
  leafDeserialize := fun _ => .error "no leaf"
  parseFromRfc3339 := fun raw => (listTimes.lookup raw).elim (.error "input is out of range") .ok
  canonicalize := fun _ => .ok (Acdp.Crypto.utf8 listText)
  sha256 := listSha256
  usizeBits := 64
  bodyDeserialize := fun _ => .ok listBody
  receiptDeserialize := fun _ => .error "no receipt"
  eventDeserialize := fun _ => .error "no event"
  eventReceiptDeserialize := fun _ => .error "no event receipt"
  checkpointDeserialize := fun _ => .error "no checkpoint"
  inclusionDeserialize := fun _ => .error "no inclusion"
  cosignatureDeserialize := fun _ => .error "no cosignature"
  didDocumentDeserialize := fun _ => .error "no document"
  attestationRefDeserialize := fun _ => .error "no reference"
  attestationDeserialize := fun _ => .error "no attestation"
  identityDeserialize := fun _ => .error "no identity"
  fmtRfc3339Ms := fun time => ((listTimes.find? (fun p => p.2 = time)).map Prod.fst).getD ""
  display := fun time => ((listTimes.find? (fun p => p.2 = time)).map Prod.fst).getD ""
  base64UrlDecode := fun _ => .error "no key"
  base58Decode := fun _ => .ok (0xed :: 0x01 :: issuerKey)
  p256Compressed := fun _ => .error "no key"
  verifyEd25519 := fun key value message =>
    if key.toList = issuerKey ∧ value = listBody.signature.value ∧ message = listBody.contentHash then .ok ()
    else .error (.invalidSignature "signature verification failed")
  verifyEcdsaP256 := fun _ _ _ => .error (.invalidSignature "signature verification failed")
  validateBodySchema := fun _ => .ok ()
  serdeError := fun _ => "invalid type"

def listEvidence : Acdp.Chain.Evidence where
  evidenceVersion := Acdp.Chain.evidenceVersion
  roots := none
  exportedAt := none
  contexts := (∅ : ExtTreeMap String Acdp.Chain.ContextEvidence).insert listCtxId {
    body := listBodyJson
    registryReceipt := none
    lifecycleEvents := none
    eventReceipts := none
    logInclusion := none }
  didDocuments := none
  revocationDiscovery := none
  checkpoints := none
  consistencyProofs := none
  omitted := none
  annotations := ∅

def anyKeyPin : IssuerPin := ⟨issuerDid, "main", none⟩

def otherKeyPin : IssuerPin := ⟨issuerDid, "main",
  some ((∅ : Std.ExtTreeSet String).insert
    "sha256:752838c892498092aa20847e9043de321f124afd6a64656f5540b36cc777cd7b")⟩

def shadowedOptions : TrustOptions :=
  (TrustOptions.new [anyKeyPin, otherKeyPin] (listTime 1769904000)).withFloors
    ((∅ : Floors).insert anyKeyPin.series 1)

def listRun (parsed : Acdp.Chain.Parsed) : Run :=
  ⟨Acdp.Chain.engineOf listEnv.toEnv true parsed .default, listEnv.serdeError, none, .default⟩

theorem listRun_valid : (listEvidence.parse listEnv.toEnv).toOption.any (fun parsed =>
    (((listRun parsed).validFor shadowedOptions.pins .latest anyKeyPin).map (·.list.serial) = [2] ∧
      ((listRun parsed).validFor shadowedOptions.pins .latest otherKeyPin).length = 0)) = true := by
  decide +kernel

theorem shadowed_version_unprotected : ∃ (jcs : Acdp.Chain.JcsDigest) (digest : TrustReport → String)
    (verdict : ChainVerdict) (trust : ChainTrust) (r : Run),
    verifyChainWithTrust listEnv jcs digest true [listCtxId] listEvidence .default shadowedOptions =
      .ok (verdict, trust) ∧
    trust = r.evaluate digest verdict shadowedOptions ∧ ¬ r.Protected shadowedOptions trust.floors := by
  obtain ⟨parsed, hparsed, hvalid⟩ := (Option.any_eq_true _ _).mp listRun_valid
  rw [decide_eq_true_eq] at hvalid
  obtain ⟨hserials, hempty⟩ := hvalid
  have hparse : listEvidence.parse listEnv.toEnv = .ok parsed := by
    cases hresult : listEvidence.parse listEnv.toEnv with
    | error e =>
      rw [hresult] at hparsed
      cases hparsed
    | ok result =>
      rw [hresult] at hparsed
      rw [Option.some.inj hparsed]
  have hoptions : Acdp.Chain.Options.check listEnv.toEnv true .default = .ok () := by decide +kernel
  have hroots : Acdp.Chain.checkRoots [listCtxId] = .ok () := by decide +kernel
  let jcs : Acdp.Chain.JcsDigest := ⟨fun _ => "", fun _ => "", fun _ => "", fun _ => ""⟩
  let verdict := (Acdp.Chain.engineOf listEnv.toEnv true parsed .default).verdict jcs listEvidence .default
    (Acdp.Chain.walk [listCtxId] parsed Acdp.Chain.Options.default.limits (fun _ => false))
  refine ⟨jcs, fun _ => "", verdict, (listRun parsed).evaluate (fun _ => "") verdict shadowedOptions,
    listRun parsed, ?_, rfl, ?_⟩
  · rw [verifyChainWithTrust, verifyChainWithTrustPolicy, hoptions, hroots, hparse]
    rfl
  · rw [Run.protected_iff]
    intro hnone
    have hpins : shadowedOptions.pins = [anyKeyPin, otherKeyPin] := rfl
    have hfloor : shadowedOptions.floors[anyKeyPin.series]? = some 1 := by
      change ((∅ : Floors).insert anyKeyPin.series 1)[anyKeyPin.series]? = some 1
      rw [get_insert_floor, if_pos rfl]
    obtain ⟨v, hv, hserial⟩ := List.mem_map.mp (hserials ▸ List.mem_singleton_self 2)
    rcases hnone anyKeyPin (hpins ▸ List.mem_cons_self) v hv with
      ⟨f, hf, hle⟩ | ⟨q, hq, v', hv', -⟩
    · rw [hfloor] at hf
      have := Option.some.inj hf
      omega
    · have hlast : q = otherKeyPin := by
        rw [Run.deciding, hpins, List.reverse_cons, List.reverse_singleton, List.singleton_append,
          List.find?_cons, hfloor, decide_eq_true ⟨rfl, .inl rfl⟩] at hq
        exact (Option.some.inj hq).symm
      rw [hlast, List.eq_nil_of_length_eq_zero hempty] at hv'
      cases hv'

end Shadowed

end Acdp.Trust
