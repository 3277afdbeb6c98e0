import Acdp.Types.Decode
import Acdp.Types.Members

namespace Acdp.Types

open Acdp.Crypto (removeKeys)
open Acdp.Types.Json (flattened strs)

section Fields

variable {α : Type} {members : List (String × Json)} {key : String} {read : Json →
    Option α} (write : α → Json)

theorem requiredField_of_lookup (x : α) (hlookup : members.lookup key = some (write x))
    (hread : read (write x) = some x) : requiredField members key read = some x := by
  rw [requiredField, hlookup, Option.bind_some, hread]

theorem presentField_of_lookup (x : Option α) (hlookup : members.lookup key = x.map write)
    (hread : ∀ a ∈ x, read (write a) = some a) : presentField members key read = some x := by
  cases x with
  | none => rw [presentField, hlookup, Option.map_none]
  | some a =>
    rw [presentField, hlookup, Option.map_some]
    dsimp only
    rw [hread a rfl, Option.map_some]

theorem optionField_of_lookup (x : Option α) (hlookup : members.lookup key = x.map write)
    (hread : ∀ a ∈ x, read (write a) = some a) (hvalue : ∀ a ∈ x, write a ≠ .null) :
    optionField members key read = some x := by
  cases x with
  | none => rw [optionField, hlookup, Option.map_none]
  | some a =>
    rw [optionField, hlookup, Option.map_some]
    split
    · next heq => cases heq
    · next heq => exact absurd (Option.some.inj heq) (hvalue a rfl)
    · next v heq =>
      rw [← Option.some.inj heq, hread a rfl, Option.map_some]

theorem readItems_map (xs : List α) (hread : ∀ x ∈ xs, read (write x) = some x) :
    Json.readItems read (.arr (xs.map write)) = some xs := by
  change (xs.map write).mapM read = some xs
  induction xs with
  | nil => rfl
  | cons x xs ih =>
    rw [List.map_cons, List.mapM_cons, hread x List.mem_cons_self,
      ih (fun y hy => hread y (List.mem_cons_of_mem _ hy))]
    rfl

theorem readItems_strs (xs : List String) : Json.readItems Json.asStr (strs xs) = some xs :=
  readItems_map .str xs (fun _ _ => rfl)

end Fields

theorem flattened_eq_append (fields extensions : List (String × Json))
    (hnodup : (extensions.map Prod.fst).Nodup)
    (hfree : ∀ k ∈ extensions.map Prod.fst, k ∉ fields.map Prod.fst) :
    flattened fields extensions = fields ++ extensions := by
  unfold flattened
  induction extensions generalizing fields with
  | nil => rw [List.foldl_nil, List.append_nil]
  | cons m rest ih =>
    rw [List.map_cons, List.nodup_cons] at hnodup
    rw [List.map_cons, List.forall_mem_cons] at hfree
    have hinsert : Json.insertMember fields m.1 m.2 = fields ++ [m] := if_neg hfree.1
    rw [List.foldl_cons, hinsert, ih _ hnodup.2, List.append_assoc]
    · rfl
    · intro k hk hin
      rw [List.map_append, List.mem_append] at hin
      rcases hin with hin | hin
      · exact hfree.2 k hk hin
      · obtain rfl := List.mem_singleton.mp hin
        exact hnodup.1 hk

theorem removeKeys_eq_self (keys : List String) (members : List (String × Json))
    (h : ∀ k ∈ members.map Prod.fst, k ∉ keys) : removeKeys keys members = members := by
  rw [removeKeys, List.filter_eq_self]
  intro m hm
  exact decide_eq_true (h m.1 (List.mem_map_of_mem hm))

theorem removeKeys_eq_nil (keys : List String) (members : List (String × Json))
    (h : ∀ k ∈ members.map Prod.fst, k ∈ keys) : removeKeys keys members = [] := by
  rw [removeKeys, List.filter_eq_nil_iff]
  intro m hm
  simpa using h m.1 (List.mem_map_of_mem hm)

structure FreeExtensions (names : List String) (extensions : List (String × Json)) : Prop where
  unique : (extensions.map Prod.fst).Nodup
  free : ∀ k ∈ extensions.map Prod.fst, k ∉ names

section Flattened

variable {names : List String} {fields extensions : List (String × Json)}
    (h : FreeExtensions names extensions) (hfields : fields.map Prod.fst ⊆ names)

include h hfields

theorem FreeExtensions.flattened_eq : flattened fields extensions = fields ++ extensions :=
  flattened_eq_append fields extensions h.unique (fun k hk hin => h.free k hk (hfields hin))

theorem FreeExtensions.removeKeys_flattened : removeKeys names (flattened fields extensions) =
    extensions := by
  rw [h.flattened_eq hfields, removeKeys_append, removeKeys_eq_nil names fields (fun _ hk => hfields hk),
    removeKeys_eq_self names extensions h.free, List.nil_append]

omit hfields in
theorem FreeExtensions.lookup_flattened (k : String) (hk : k ∈ names) :
    (flattened fields extensions).lookup k = fields.lookup k :=
  Types.lookup_flattened fields extensions k (fun hin => h.free k hin hk)

end Flattened

section Parts

theorem Visibility.read_wire (v : Visibility) : Visibility.read (.str v.wire) = some v := by
  cases v <;> simp [Visibility.read, Json.unitVariant, Visibility.ofWire, Visibility.wire]

theorem DataRefType.read_wire (t : DataRefType) : DataRefType.read (.str t.wire) = some t := by
  cases t <;> simp [DataRefType.read, Json.unitVariant, DataRefType.ofWire, DataRefType.wire]

theorem EmbeddedEncoding.read_wire (e : EmbeddedEncoding) : EmbeddedEncoding.read (.str e.wire) = some e := by
  cases e <;> simp [EmbeddedEncoding.read, Json.unitVariant, EmbeddedEncoding.ofWire, EmbeddedEncoding.wire]

theorem Location.read_toValue (l : Location) : Location.read l.toValue = some l := by
  cases l <;> rfl

theorem Signature.read_toValue (s : Signature) : Signature.read s.toValue = some s := by
  simp [Signature.read, Signature.toValue, Json.closedMembers, strField, List.lookup_cons, Json.asStr]

theorem KeyAttestationRef.read_toValue (r : KeyAttestationRef) :
    KeyAttestationRef.read r.toValue = some r := by
  simp [KeyAttestationRef.read, KeyAttestationRef.toValue, Json.closedMembers, requiredField,
    List.lookup_cons, Json.asStr]

theorem ContextType.read_wire (t : ContextType)
    (h : ∀ name, t = .custom name → isNamespacedContextType name = true) :
    ContextType.read (.str t.wire) = some t := by
  cases t with
  | custom name =>
    have hname := h name rfl
    have hne : ∀ s, Text.splitOnceChar ':' s = none → name ≠ s := by
      rintro s hs rfl
      rw [isNamespacedContextType, hs] at hname
      cases hname
    change ContextType.ofWire name = some (.custom name)
    rw [ContextType.ofWire, if_neg (hne _ (by decide)), if_neg (hne _ (by decide)),
      if_neg (hne _ (by decide)), if_neg (hne _ (by decide)), if_neg (hne _ (by decide)), if_pos hname]
  | _ => simp [ContextType.read, ContextType.wire, ContextType.ofWire, Json.asStr]

theorem asUInt_posInt (bits n : ℕ) (m : UInt64) (hm : m.toNat = n) (hn : n < 2 ^ bits) :
    Json.asUInt bits (.num (.posInt m)) = some n := by
  rw [Json.asUInt, hm, if_pos hn]

theorem EmbeddedContent.read_toValue (e : EmbeddedContent) : EmbeddedContent.read e.toValue = some e := by
  have hclosed : e.toValue.closedMembersFrom 2 ["encoding", "content", "content_hash"] =
      some ([("encoding", .str e.encoding.wire), ("content", e.content)] ++
        Json.optional "content_hash" .str e.contentHash) := by
    refine if_pos ?_
    cases e.contentHash <;> simp [Json.optional]
  refine Option.bind_eq_some_iff.mpr ⟨_, hclosed, ?_⟩
  refine Option.bind_eq_some_iff.mpr ⟨e.encoding, ?_, ?_⟩
  · refine requiredField_of_lookup (fun e => .str e.wire) e.encoding ?_ (EmbeddedEncoding.read_wire _)
    simp
  refine Option.bind_eq_some_iff.mpr ⟨e.content, ?_, ?_⟩
  · simp [List.lookup_cons]
  refine Option.bind_eq_some_iff.mpr ⟨e.contentHash, ?_, rfl⟩
  refine presentField_of_lookup .str e.contentHash ?_ (fun _ _ => rfl)
  simp [lookup_optional, List.lookup_cons]

theorem keys_optional_subset {α : Type} (key : String) (write : α → Json) (value : Option α)
    (names : List String) : (Json.optional key write value).map Prod.fst ⊆ names ↔
    (value.isSome → key ∈ names) := by
  cases value <;> simp [Json.optional]

theorem DataRef.keys_fields (d : DataRef) : d.fields.map Prod.fst ⊆ DataRef.names := by
  simp [DataRef.fields, List.append_subset, keys_optional_subset, DataRef.names]

theorem DataRef.read_toValue (d : DataRef) (h : FreeExtensions DataRef.names d.extensions) :
    DataRef.read d.toValue = some d := by
  have hlookup : ∀ k ∈ DataRef.names, (flattened d.fields d.extensions).lookup k = d.fields.lookup k :=
    fun k hk => h.lookup_flattened k hk
  refine Option.bind_eq_some_iff.mpr ⟨d.refType, ?_, ?_⟩
  · refine requiredField_of_lookup (fun t => .str t.wire) d.refType ?_ (DataRefType.read_wire _)
    rw [hlookup _ (by decide)]
    simp [DataRef.fields]
  refine Option.bind_eq_some_iff.mpr ⟨d.description, ?_, ?_⟩
  · refine presentField_of_lookup .str d.description ?_ (fun _ _ => rfl)
    rw [hlookup _ (by decide)]
    simp [DataRef.fields, lookup_append, lookup_optional, List.lookup_cons]
  refine Option.bind_eq_some_iff.mpr ⟨d.sizeBytes, ?_, ?_⟩
  · refine presentField_of_lookup (fun n => .num (.posInt n)) d.sizeBytes ?_ ?_
    · rw [hlookup _ (by decide)]
      simp [DataRef.fields, lookup_append, lookup_optional, List.lookup_cons]
    · intro n _
      rw [asUInt_posInt 64 n.toNat n rfl n.toNat_lt, Option.map_some, UInt64.ofNat_toNat]
  refine Option.bind_eq_some_iff.mpr ⟨d.format, ?_, ?_⟩
  · refine presentField_of_lookup .str d.format ?_ (fun _ _ => rfl)
    rw [hlookup _ (by decide)]
    simp [DataRef.fields, lookup_append, lookup_optional, List.lookup_cons]
  refine Option.bind_eq_some_iff.mpr ⟨d.schemaVersion, ?_, ?_⟩
  · refine presentField_of_lookup .str d.schemaVersion ?_ (fun _ _ => rfl)
    rw [hlookup _ (by decide)]
    simp [DataRef.fields, lookup_append, lookup_optional, List.lookup_cons]
  refine Option.bind_eq_some_iff.mpr ⟨d.contentHash, ?_, ?_⟩
  · refine presentField_of_lookup .str d.contentHash ?_ (fun _ _ => rfl)
    rw [hlookup _ (by decide)]
    simp [DataRef.fields, lookup_append, lookup_optional, List.lookup_cons]
  refine Option.bind_eq_some_iff.mpr ⟨d.location, ?_, ?_⟩
  · refine presentField_of_lookup Location.toValue d.location ?_ (fun l _ => Location.read_toValue l)
    rw [hlookup _ (by decide)]
    simp [DataRef.fields, lookup_append, lookup_optional, List.lookup_cons]
  refine Option.bind_eq_some_iff.mpr ⟨d.embedded, ?_, ?_⟩
  · refine presentField_of_lookup EmbeddedContent.toValue d.embedded ?_
      (fun e _ => EmbeddedContent.read_toValue e)
    rw [hlookup _ (by decide)]
    simp [DataRef.fields, lookup_append, lookup_optional, List.lookup_cons]
  rw [h.removeKeys_flattened d.keys_fields]
  rfl

theorem AnchorEntry.keys_fields (a : AnchorEntry) : a.fields.map Prod.fst ⊆ AnchorEntry.names := by
  simp [AnchorEntry.fields, keys_optional_subset, AnchorEntry.names]

theorem AnchorEntry.read_toValue (a : AnchorEntry) (h : FreeExtensions AnchorEntry.names a.extensions) :
    AnchorEntry.read a.toValue = some a := by
  have hlookup : ∀ k ∈ AnchorEntry.names, (flattened a.fields a.extensions).lookup k = a.fields.lookup k :=
    fun k hk => h.lookup_flattened k hk
  refine Option.bind_eq_some_iff.mpr ⟨a.scheme, ?_, ?_⟩
  · refine requiredField_of_lookup .str a.scheme ?_ rfl
    rw [hlookup _ (by decide)]
    simp [AnchorEntry.fields]
  refine Option.bind_eq_some_iff.mpr ⟨a.contentHash, ?_, ?_⟩
  · refine requiredField_of_lookup .str a.contentHash ?_ rfl
    rw [hlookup _ (by decide)]
    simp [AnchorEntry.fields, List.lookup_cons]
  refine Option.bind_eq_some_iff.mpr ⟨a.uri, ?_, ?_⟩
  · refine optionField_of_lookup .str a.uri ?_ (fun _ _ => rfl) (by simp)
    rw [hlookup _ (by decide)]
    simp [AnchorEntry.fields, lookup_optional, List.lookup_cons]
  rw [h.removeKeys_flattened a.keys_fields]
  rfl

theorem DataPeriod.read_toValue (env : WireEnv) (parseDateTime : String → Option DateTime)
    (hparse : ∀ t, parseDateTime (fmtRfc3339Canonical env t) = some t) (p : DataPeriod) :
    DataPeriod.read parseDateTime (p.toValue env) = some p := by
  simp [DataPeriod.read, DataPeriod.toValue, Json.closedMembers, requiredField, List.lookup_cons, readInstant,
    Json.asStr, hparse]

end Parts

section Request

variable (parseDateTime : String → Option DateTime)

theorem PublishRequest.read_of_readFrom (v : Json) (r : PublishRequest) (members : List (String × Json))
    (hmembers : v.closedMembersFrom 21 PublishRequest.names = some members)
    (h : PublishRequest.ReadFrom parseDateTime members r) : PublishRequest.read parseDateTime v = some r := by
  obtain ⟨version, hversion, heq⟩ := Option.map_eq_some_iff.mp h.version
  unfold PublishRequest.read
  refine Option.bind_eq_some_iff.mpr ⟨members, hmembers, ?_⟩
  refine Option.bind_eq_some_iff.mpr ⟨version, hversion, ?_⟩
  refine Option.bind_eq_some_iff.mpr ⟨_, h.supersedes, ?_⟩
  refine Option.bind_eq_some_iff.mpr ⟨_, h.agentId, ?_⟩
  refine Option.bind_eq_some_iff.mpr ⟨_, h.contributors, ?_⟩
  refine Option.bind_eq_some_iff.mpr ⟨_, h.title, ?_⟩
  refine Option.bind_eq_some_iff.mpr ⟨_, h.contextType, ?_⟩
  refine Option.bind_eq_some_iff.mpr ⟨_, h.dataRefs, ?_⟩
  refine Option.bind_eq_some_iff.mpr ⟨_, h.derivedFrom, ?_⟩
  refine Option.bind_eq_some_iff.mpr ⟨_, h.visibility, ?_⟩
  refine Option.bind_eq_some_iff.mpr ⟨_, h.contentHash, ?_⟩
  refine Option.bind_eq_some_iff.mpr ⟨_, h.signature, ?_⟩
  refine Option.bind_eq_some_iff.mpr ⟨_, h.audience, ?_⟩
  refine Option.bind_eq_some_iff.mpr ⟨_, h.acdpVersion, ?_⟩
  refine Option.bind_eq_some_iff.mpr ⟨_, h.description, ?_⟩
  refine Option.bind_eq_some_iff.mpr ⟨_, h.summary, ?_⟩
  refine Option.bind_eq_some_iff.mpr ⟨_, h.lineageId, ?_⟩
  refine Option.bind_eq_some_iff.mpr ⟨_, h.tags, ?_⟩
  refine Option.bind_eq_some_iff.mpr ⟨_, h.domain, ?_⟩
  refine Option.bind_eq_some_iff.mpr ⟨_, h.expiresAt, ?_⟩
  refine Option.bind_eq_some_iff.mpr ⟨_, h.dataPeriod, ?_⟩
  refine Option.bind_eq_some_iff.mpr ⟨_, h.metadata, ?_⟩
  refine Option.bind_eq_some_iff.mpr ⟨_, h.schemaUri, ?_⟩
  refine Option.bind_eq_some_iff.mpr ⟨_, h.anchors, ?_⟩
  refine Option.bind_eq_some_iff.mpr ⟨_, h.keyAttestation, ?_⟩
  rw [heq]
  rfl

structure PublishRequest.Readable (r : PublishRequest) : Prop where
  contextType : ∀ name, r.contextType = .custom name → isNamespacedContextType name = true
  metadata : r.metadata ≠ some .null
  dataRefs : ∀ d ∈ r.dataRefs, FreeExtensions DataRef.names d.extensions
  anchors : ∀ as ∈ r.anchors, ∀ a ∈ as, FreeExtensions AnchorEntry.names a.extensions

theorem PublishRequest.keys_members (env : WireEnv) (r : PublishRequest) :
    (r.members env).map Prod.fst ⊆ PublishRequest.names := by
  simp only [PublishRequest.members, List.map_append, List.append_subset, keys_optional_subset]
  simp [PublishRequest.names, keyAttestationField]

theorem PublishRequest.lookup_optionals (env : WireEnv) (r : PublishRequest) :
    (r.members env).lookup "audience" = r.audience.map strs ∧
    (r.members env).lookup "acdp_version" = r.acdpVersion.map .str ∧
    (r.members env).lookup "description" = r.description.map .str ∧
    (r.members env).lookup "summary" = r.summary.map .str ∧
    (r.members env).lookup "lineage_id" = r.lineageId.map .str ∧
    (r.members env).lookup "tags" = r.tags.map strs ∧
    (r.members env).lookup "domain" = r.domain.map .str ∧
    (r.members env).lookup "expires_at" = r.expiresAt.map (fun t => .str (fmtRfc3339Canonical env t)) ∧
    (r.members env).lookup "data_period" = r.dataPeriod.map (DataPeriod.toValue env) ∧
    (r.members env).lookup "metadata" = r.metadata.map id ∧
    (r.members env).lookup "schema_uri" = r.schemaUri.map .str ∧
    (r.members env).lookup "anchors" = r.anchors.map (fun as => .arr (as.map AnchorEntry.toValue)) ∧
    (r.members env).lookup "key_attestation" = r.keyAttestation.map KeyAttestationRef.toValue := by
  refine ⟨?_, ?_, ?_, ?_, ?_, ?_, ?_, ?_, ?_, ?_, ?_, ?_, ?_⟩ <;>
    simp [PublishRequest.members, lookup_append, lookup_optional, List.lookup_cons, keyAttestationField]

theorem PublishRequest.readFrom_members (env : WireEnv)
    (hparse : ∀ t, parseDateTime (fmtRfc3339Canonical env t) = some t) (r : PublishRequest) (h : r.Readable) :
    PublishRequest.ReadFrom parseDateTime (r.members env) r := by
  obtain ⟨hAudience, hAcdpVersion, hDescription, hSummary, hLineageId, hTags, hDomain,
    hExpiresAt, hDataPeriod, hMetadata, hSchemaUri, hAnchors, hKeyAttestation⟩ :=
      PublishRequest.lookup_optionals env r
  exact {
    version := by
      rw [requiredField_of_lookup (fun n => .num (.posInt (UInt64.ofNat n))) r.version.toNat]
      · rw [Option.map_some, UInt32.ofNat_toNat]
      · simp [PublishRequest.members]
      · exact asUInt_posInt 32 _ _ (by simp) r.version.toNat_lt
    supersedes := by
      have hlookup : (r.members env).lookup "supersedes" = some (nullable r.supersedes) := by
        simp [PublishRequest.members, List.lookup_cons]
      rw [optionField, hlookup]
      cases r.supersedes <;> rfl
    agentId := requiredField_of_lookup .str _ (by simp [PublishRequest.members, List.lookup_cons]) rfl
    contributors := requiredField_of_lookup strs _ (by simp [PublishRequest.members, List.lookup_cons])
      (readItems_strs _)
    title := requiredField_of_lookup .str _ (by simp [PublishRequest.members, List.lookup_cons]) rfl
    contextType := requiredField_of_lookup (fun t => .str t.wire) _
      (by simp [PublishRequest.members, List.lookup_cons]) (ContextType.read_wire _ h.contextType)
    dataRefs := requiredField_of_lookup (fun ds => .arr (ds.map DataRef.toValue)) _
      (by simp [PublishRequest.members, List.lookup_cons])
      (readItems_map _ _ (fun d hd => DataRef.read_toValue d (h.dataRefs d hd)))
    derivedFrom := requiredField_of_lookup strs _ (by simp [PublishRequest.members, List.lookup_cons])
      (readItems_strs _)
    visibility := requiredField_of_lookup (fun v => .str v.wire) _
      (by simp [PublishRequest.members, List.lookup_cons]) (Visibility.read_wire _)
    contentHash := requiredField_of_lookup .str _ (by simp [PublishRequest.members, List.lookup_cons]) rfl
    signature := requiredField_of_lookup Signature.toValue _
      (by simp [PublishRequest.members, List.lookup_cons]) (Signature.read_toValue _)
    audience := optionField_of_lookup strs _ hAudience (fun _ _ => readItems_strs _) (by simp [strs])
    acdpVersion := presentField_of_lookup .str _ hAcdpVersion (fun _ _ => rfl)
    description := presentField_of_lookup .str _ hDescription (fun _ _ => rfl)
    summary := presentField_of_lookup .str _ hSummary (fun _ _ => rfl)
    lineageId := optionField_of_lookup .str _ hLineageId (fun _ _ => rfl) (by simp)
    tags := presentField_of_lookup strs _ hTags (fun _ _ => readItems_strs _)
    domain := presentField_of_lookup .str _ hDomain (fun _ _ => rfl)
    expiresAt := optionField_of_lookup (fun t => .str (fmtRfc3339Canonical env t)) _ hExpiresAt
      (fun t _ => hparse t) (by simp)
    dataPeriod := optionField_of_lookup (DataPeriod.toValue env) _ hDataPeriod
      (fun p _ => DataPeriod.read_toValue env parseDateTime hparse p) (by simp [DataPeriod.toValue])
    metadata := by
      refine optionField_of_lookup id _ hMetadata (fun _ _ => rfl) ?_
      rintro v hv rfl
      exact h.metadata hv
    schemaUri := presentField_of_lookup .str _ hSchemaUri (fun _ _ => rfl)
    anchors := presentField_of_lookup (fun as => .arr (as.map AnchorEntry.toValue)) _ hAnchors
      (fun as has => readItems_map _ _ (fun a ha => AnchorEntry.read_toValue a (h.anchors as has a ha)))
    keyAttestation := presentField_of_lookup KeyAttestationRef.toValue _ hKeyAttestation
      (fun k _ => KeyAttestationRef.read_toValue k) }

theorem PublishRequest.read_toValue (env : WireEnv)
    (hparse : ∀ t, parseDateTime (fmtRfc3339Canonical env t) = some t) (r : PublishRequest) (h : r.Readable) :
    PublishRequest.read parseDateTime (r.toValue env) = some r := by
  have hnames : (r.members env).all (fun m => m.1 ∈ PublishRequest.names) = true := by
    rw [List.all_eq_true]
    intro m hm
    exact decide_eq_true (PublishRequest.keys_members env r (List.mem_map_of_mem hm))
  have hclosed : (r.toValue env).closedMembersFrom 21 PublishRequest.names = some (r.members env) := by
    rw [PublishRequest.toValue, Json.closedMembersFrom, if_pos hnames]
  exact PublishRequest.read_of_readFrom parseDateTime _ r (r.members env) hclosed
    (PublishRequest.readFrom_members parseDateTime env hparse r h)

end Request

end Acdp.Types
