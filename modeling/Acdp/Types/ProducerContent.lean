import Acdp.Types.ReadStable

namespace Acdp.Types

open Acdp.Crypto (removeKeys)
open Acdp.Jcs (FloatFormat NumberValid render render_eq_of_same)
open Acdp.Types.Json (Valid Same SameValid flattened strs)

/-- What JCS writes for a value. Two values are equal up to JCS where their texts are. -/
abbrev JcsText := List Char

inductive LocationText where
  | uri (uri : String)
  | structured (members : JcsText)
deriving DecidableEq

structure EmbeddedText where
  encoding : EmbeddedEncoding
  content : JcsText
  contentHash : Option ContentHash
deriving DecidableEq

structure DataRefText where
  refType : DataRefType
  description : Option String
  sizeBytes : Option UInt64
  format : Option String
  schemaVersion : Option String
  contentHash : Option ContentHash
  location : Option LocationText
  embedded : Option EmbeddedText
  extensions : JcsText
deriving DecidableEq

structure AnchorText where
  scheme : String
  contentHash : ContentHash
  uri : Option String
  extensions : JcsText
deriving DecidableEq

/-- The producer-controlled fields of a body, its JSON values up to JCS. -/
structure ProducerContent where
  version : UInt32
  supersedes : Option CtxId
  agentId : AgentDid
  contributors : List AgentDid
  title : String
  contextType : ContextType
  dataRefs : List DataRefText
  derivedFrom : List CtxId
  visibility : Visibility
  audience : Option (List AgentDid)
  acdpVersion : Option String
  description : Option String
  summary : Option String
  tags : Option (List String)
  domain : Option String
  expiresAt : Option DateTime
  dataPeriod : Option DataPeriod
  metadata : Option JcsText
  schemaUri : Option String
  anchors : Option (List AnchorText)
  extensions : JcsText
deriving DecidableEq

section Texts

variable (fmt : FloatFormat)

def Location.text : Location → LocationText
  | .uri u => .uri u
  | .structured members => .structured (render fmt (.obj members))

def EmbeddedContent.text (e : EmbeddedContent) : EmbeddedText :=
  ⟨e.encoding, render fmt e.content, e.contentHash⟩

def DataRef.text (d : DataRef) : DataRefText where
  refType := d.refType
  description := d.description
  sizeBytes := d.sizeBytes
  format := d.format
  schemaVersion := d.schemaVersion
  contentHash := d.contentHash
  location := d.location.map (Location.text fmt)
  embedded := d.embedded.map (EmbeddedContent.text fmt)
  extensions := render fmt (.obj d.extensions)

def AnchorEntry.text (a : AnchorEntry) : AnchorText :=
  ⟨a.scheme, a.contentHash, a.uri, render fmt (.obj a.extensions)⟩

def Body.producerContent (b : Body) : ProducerContent where
  version := b.version
  supersedes := b.supersedes
  agentId := b.agentId
  contributors := b.contributors
  title := b.title
  contextType := b.contextType
  dataRefs := b.dataRefs.map (DataRef.text fmt)
  derivedFrom := b.derivedFrom
  visibility := b.visibility
  audience := b.audience
  acdpVersion := b.acdpVersion
  description := b.description
  summary := b.summary
  tags := b.tags
  domain := b.domain
  expiresAt := b.expiresAt
  dataPeriod := b.dataPeriod
  metadata := b.metadata.map (render fmt)
  schemaUri := b.schemaUri
  anchors := b.anchors.map (List.map (AnchorEntry.text fmt))
  extensions := render fmt (.obj b.extensions)

end Texts

section Parts

variable {fmt : FloatFormat}

theorem stable_location : Stable fmt Location.read (Location.text fmt) := by
  intro v w h x y hx hy
  have hsame := h.same
  unfold Location.read at hx hy
  split at hx
  next s =>
    split at hy
    next t =>
      obtain rfl := Option.some.inj hx
      obtain rfl := Option.some.inj hy
      rw [Same] at hsame
      rw [hsame]
    · simp [Same] at hsame
    · cases hy
  next as =>
    split at hy
    · simp [Same] at hsame
    next bs =>
      obtain rfl := Option.some.inj hx
      obtain rfl := Option.some.inj hy
      exact congrArg LocationText.structured h.render_eq
    · cases hy
  · cases hx

structure EmbeddedContent.ReadFrom (members : List (String × Json)) (e : EmbeddedContent) : Prop where
  encoding : requiredField members "encoding" EmbeddedEncoding.read = some e.encoding
  content : members.lookup "content" = some e.content
  contentHash : presentField members "content_hash" Json.asStr = some e.contentHash

theorem EmbeddedContent.readFrom_of_read (v : Json) (e : EmbeddedContent)
    (h : EmbeddedContent.read v = some e) : ∃ members, v.closedMembersFrom 2
    ["encoding", "content", "content_hash"] = some members ∧ EmbeddedContent.ReadFrom members e := by
  obtain ⟨members, hmembers, h⟩ := Option.bind_eq_some_iff.mp h
  obtain ⟨encoding, hEncoding, h⟩ := Option.bind_eq_some_iff.mp h
  obtain ⟨content, hContent, h⟩ := Option.bind_eq_some_iff.mp h
  obtain ⟨contentHash, hContentHash, h⟩ := Option.bind_eq_some_iff.mp h
  obtain rfl := Option.some.inj h
  exact ⟨members, hmembers, hEncoding, hContent, hContentHash⟩

theorem stable_embedded : Stable fmt EmbeddedContent.read (EmbeddedContent.text fmt) := by
  intro v w h x y hx hy
  obtain ⟨as, hv, hx⟩ := EmbeddedContent.readFrom_of_read v x hx
  obtain ⟨bs, hw, hy⟩ := EmbeddedContent.readFrom_of_read w y hy
  have hl := lookupSame_closedMembersFrom 2 _ v w h as bs hv hw
  have hcontent := hl "content"
  rw [hx.content, hy.content] at hcontent
  cases hcontent with
  | some hsame =>
    rw [EmbeddedContent.text, EmbeddedContent.text, hsame.render_eq,
      hl.required_eq (stable_of_variant _) _ _ _ hx.encoding hy.encoding,
      hl.present_eq stable_asStr _ _ _ hx.contentHash hy.contentHash]

structure DataRef.ReadFrom (members : List (String × Json)) (d : DataRef) : Prop where
  refType : requiredField members "type" DataRefType.read = some d.refType
  description : presentField members "description" Json.asStr = some d.description
  sizeBytes : presentField members "size_bytes" (fun v => (v.asUInt 64).map UInt64.ofNat) = some d.sizeBytes
  format : presentField members "format" Json.asStr = some d.format
  schemaVersion : presentField members "schema_version" Json.asStr = some d.schemaVersion
  contentHash : presentField members "content_hash" Json.asStr = some d.contentHash
  location : presentField members "location" Location.read = some d.location
  embedded : presentField members "embedded" EmbeddedContent.read = some d.embedded
  extensions : d.extensions = removeKeys DataRef.names members

theorem DataRef.readFrom_of_read (v : Json) (d : DataRef) (h : DataRef.read v = some d) :
    ∃ members, v.asObject = some members ∧ DataRef.ReadFrom members d := by
  obtain ⟨members, hmembers, h⟩ := Option.bind_eq_some_iff.mp h
  obtain ⟨refType, hRefType, h⟩ := Option.bind_eq_some_iff.mp h
  obtain ⟨description, hDescription, h⟩ := Option.bind_eq_some_iff.mp h
  obtain ⟨sizeBytes, hSizeBytes, h⟩ := Option.bind_eq_some_iff.mp h
  obtain ⟨format, hFormat, h⟩ := Option.bind_eq_some_iff.mp h
  obtain ⟨schemaVersion, hSchemaVersion, h⟩ := Option.bind_eq_some_iff.mp h
  obtain ⟨contentHash, hContentHash, h⟩ := Option.bind_eq_some_iff.mp h
  obtain ⟨location, hLocation, h⟩ := Option.bind_eq_some_iff.mp h
  obtain ⟨embedded, hEmbedded, h⟩ := Option.bind_eq_some_iff.mp h
  obtain rfl := Option.some.inj h
  exact ⟨members, hmembers, hRefType, hDescription, hSizeBytes, hFormat, hSchemaVersion, hContentHash,
    hLocation, hEmbedded, rfl⟩

theorem render_removeKeys (keys : List String) (as bs : List (String × Json))
    (h : JcsSame fmt (.obj as) (.obj bs)) :
    render fmt (.obj (removeKeys keys as)) = render fmt (.obj (removeKeys keys bs)) :=
  render_eq_of_same fmt _ _ (valid_removeKeys NumberValid keys h.left)
    (valid_removeKeys NumberValid keys h.right)
    (same_removeKeys NumberValid _ keys as bs h.left h.right h.same)

theorem stable_dataRef : Stable fmt DataRef.read (DataRef.text fmt) := by
  intro v w h x y hx hy
  obtain ⟨as, hv, hx'⟩ := DataRef.readFrom_of_read v x hx
  obtain ⟨bs, hw, hy'⟩ := DataRef.readFrom_of_read w y hy
  rw [Json.asObject_eq_some_iff] at hv hw
  subst hv hw
  have hl : LookupSame fmt as bs := SameValid.lookup as bs h
  rw [DataRef.text, DataRef.text, hx'.extensions, hy'.extensions, render_removeKeys DataRef.names as bs h,
    hl.required_eq (stable_of_variant _) _ _ _ hx'.refType hy'.refType,
    hl.present_eq stable_asStr _ _ _ hx'.description hy'.description,
    hl.present_eq (stable_map _ _ (stable_asUInt 64)) _ _ _ hx'.sizeBytes hy'.sizeBytes,
    hl.present_eq stable_asStr _ _ _ hx'.format hy'.format,
    hl.present_eq stable_asStr _ _ _ hx'.schemaVersion hy'.schemaVersion,
    hl.present_eq stable_asStr _ _ _ hx'.contentHash hy'.contentHash,
    hl.present stable_location _ _ _ hx'.location hy'.location,
    hl.present stable_embedded _ _ _ hx'.embedded hy'.embedded]

structure AnchorEntry.ReadFrom (members : List (String × Json)) (a : AnchorEntry) : Prop where
  scheme : requiredField members "scheme" Json.asStr = some a.scheme
  contentHash : requiredField members "content_hash" Json.asStr = some a.contentHash
  uri : optionField members "uri" Json.asStr = some a.uri
  extensions : a.extensions = removeKeys AnchorEntry.names members

theorem AnchorEntry.readFrom_of_read (v : Json) (a : AnchorEntry) (h : AnchorEntry.read v = some a) :
    ∃ members, v.asObject = some members ∧ AnchorEntry.ReadFrom members a := by
  obtain ⟨members, hmembers, h⟩ := Option.bind_eq_some_iff.mp h
  obtain ⟨scheme, hScheme, h⟩ := Option.bind_eq_some_iff.mp h
  obtain ⟨contentHash, hContentHash, h⟩ := Option.bind_eq_some_iff.mp h
  obtain ⟨uri, hUri, h⟩ := Option.bind_eq_some_iff.mp h
  obtain rfl := Option.some.inj h
  exact ⟨members, hmembers, hScheme, hContentHash, hUri, rfl⟩

theorem stable_anchor : Stable fmt AnchorEntry.read (AnchorEntry.text fmt) := by
  intro v w h x y hx hy
  obtain ⟨as, hv, hx'⟩ := AnchorEntry.readFrom_of_read v x hx
  obtain ⟨bs, hw, hy'⟩ := AnchorEntry.readFrom_of_read w y hy
  rw [Json.asObject_eq_some_iff] at hv hw
  subst hv hw
  have hl : LookupSame fmt as bs := SameValid.lookup as bs h
  rw [AnchorEntry.text, AnchorEntry.text, hx'.extensions, hy'.extensions,
    render_removeKeys AnchorEntry.names as bs h,
    hl.required_eq stable_asStr _ _ _ hx'.scheme hy'.scheme,
    hl.required_eq stable_asStr _ _ _ hx'.contentHash hy'.contentHash,
    hl.option_eq stable_asStr _ _ _ hx'.uri hy'.uri]

theorem stable_dataPeriod (parseDateTime : String → Option DateTime) :
    Stable fmt (DataPeriod.read parseDateTime) id := by
  intro v w h x y hx hy
  obtain ⟨as, hv, hx⟩ := Option.bind_eq_some_iff.mp hx
  obtain ⟨bs, hw, hy⟩ := Option.bind_eq_some_iff.mp hy
  rw [closedMembers_eq] at hv hw
  have hl := lookupSame_closedMembersFrom _ _ v w h as bs hv hw
  obtain ⟨start, hstart, hx⟩ := Option.bind_eq_some_iff.mp hx
  obtain ⟨stop, hstop, hx⟩ := Option.bind_eq_some_iff.mp hx
  obtain ⟨start', hstart', hy⟩ := Option.bind_eq_some_iff.mp hy
  obtain ⟨stop', hstop', hy⟩ := Option.bind_eq_some_iff.mp hy
  obtain rfl := Option.some.inj hx
  obtain rfl := Option.some.inj hy
  rw [hl.required_eq (stable_of_text _) _ _ _ hstart hstart',
    hl.required_eq (stable_of_text _) _ _ _ hstop hstop']

end Parts

section WellFormed

structure DataRef.WellFormed (d : DataRef) : Prop where
  location : ∀ l ∈ d.location, Valid NumberValid l.toValue
  embedded : ∀ e ∈ d.embedded, Valid NumberValid e.content
  extensions : Valid NumberValid (.obj d.extensions)
  free : ∀ k ∈ d.extensions.map Prod.fst, k ∉ DataRef.names

structure AnchorEntry.WellFormed (a : AnchorEntry) : Prop where
  extensions : Valid NumberValid (.obj a.extensions)
  free : ∀ k ∈ a.extensions.map Prod.fst, k ∉ AnchorEntry.names

/-- The JSON values of the body are such as serde holds, and no extension takes the name of a typed field. -/
structure Body.WellFormed (b : Body) : Prop where
  metadata : ∀ v ∈ b.metadata, Valid NumberValid v
  dataRefs : ∀ d ∈ b.dataRefs, d.WellFormed
  anchors : ∀ as ∈ b.anchors, ∀ a ∈ as, a.WellFormed
  extensions : Valid NumberValid (.obj b.extensions)
  free : ∀ k ∈ b.extensions.map Prod.fst, k ∉ Body.names

theorem freeExtensions (names : List String) (extensions : List (String × Json))
    (h : Valid NumberValid (.obj extensions)) (hfree : ∀ k ∈ extensions.map Prod.fst, k ∉ names) :
    FreeExtensions names extensions := by
  rw [Valid] at h
  exact ⟨h.1, hfree⟩

theorem free_removeKeys (names : List String) (members : List (String × Json)) :
    ∀ k ∈ (removeKeys names members).map Prod.fst, k ∉ names := by
  intro k hk
  obtain ⟨m, hm, rfl⟩ := List.mem_map.mp hk
  simpa using (List.mem_filter.mp hm).2

theorem valid_of_lookup (members : List (String × Json))
    (h : ∀ m ∈ members, Valid NumberValid m.2) (k : String) (v : Json) (hv : members.lookup k = some v) :
    Valid NumberValid v :=
  h (k, v) (Json.mem_of_lookup k v members hv)

theorem valid_closedMembersFrom (least : ℕ) (names : List String) (v : Json) (members : List (String × Json))
    (hv : Valid NumberValid v) (h : v.closedMembersFrom least names = some members) :
    ∀ m ∈ members, Valid NumberValid m.2 := by
  unfold Json.closedMembersFrom at h
  split at h
  next as =>
    split_ifs at h
    obtain rfl := Option.some.inj h
    rw [Valid, Json.validMembers_iff] at hv
    exact hv.2
  next as =>
    split_ifs at h
    obtain rfl := Option.some.inj h
    rw [Valid, Json.validItems_iff] at hv
    exact fun m hm => hv m.2 (List.of_mem_zip hm).2
  · cases h

theorem DataRef.wellFormed_of_read (v : Json) (hv : Valid NumberValid v) (d : DataRef)
    (h : DataRef.read v = some d) : d.WellFormed := by
  obtain ⟨members, hobj, hd⟩ := DataRef.readFrom_of_read v d h
  rw [Json.asObject_eq_some_iff] at hobj
  subst hobj
  have hext := valid_removeKeys NumberValid DataRef.names hv
  rw [Valid, Json.validMembers_iff] at hv
  refine ⟨?_, ?_, hd.extensions ▸ hext, hd.extensions ▸ free_removeKeys _ _⟩
  · intro l hl
    obtain ⟨-, hnone⟩ | ⟨w, a, hw, ha, hsome⟩ := presentField_cases "location" _ hd.location
    · rw [hnone] at hl
      cases hl
    · rw [hsome] at hl
      obtain rfl := Option.some.inj hl
      have hvalid := valid_of_lookup members hv.2 _ w hw
      unfold Location.read at ha
      split at ha
      · obtain rfl := Option.some.inj ha
        exact hvalid
      · obtain rfl := Option.some.inj ha
        exact hvalid
      · cases ha
  · intro e he
    obtain ⟨-, hnone⟩ | ⟨w, a, hw, ha, hsome⟩ := presentField_cases "embedded" _ hd.embedded
    · rw [hnone] at he
      cases he
    · rw [hsome] at he
      obtain rfl := Option.some.inj he
      obtain ⟨fields, hfields, hread⟩ := EmbeddedContent.readFrom_of_read w a ha
      exact valid_of_lookup fields
        (valid_closedMembersFrom 2 _ w fields (valid_of_lookup members hv.2 _ w hw) hfields) _ _ hread.content

theorem AnchorEntry.wellFormed_of_read (v : Json) (hv : Valid NumberValid v) (a : AnchorEntry)
    (h : AnchorEntry.read v = some a) : a.WellFormed := by
  obtain ⟨members, hobj, ha⟩ := AnchorEntry.readFrom_of_read v a h
  rw [Json.asObject_eq_some_iff] at hobj
  subst hobj
  exact ⟨ha.extensions ▸ valid_removeKeys NumberValid AnchorEntry.names hv,
    ha.extensions ▸ free_removeKeys _ _⟩

theorem forall_mem_readItems {α : Type} (read : Json → Option α) (P : α → Prop)
    (h : ∀ v, Valid NumberValid v → ∀ x, read v = some x → P x) (v : Json) (hv : Valid NumberValid v)
    (xs : List α) (hxs : Json.readItems read v = some xs) : ∀ x ∈ xs, P x := by
  unfold Json.readItems at hxs
  split at hxs
  next items =>
    rw [Valid, Json.validItems_iff] at hv
    induction items generalizing xs with
    | nil =>
      obtain rfl := Option.some.inj hxs
      exact fun x hx => absurd hx List.not_mem_nil
    | cons item items ih =>
      rw [List.mapM_cons] at hxs
      obtain ⟨x, hx, hxs⟩ := Option.bind_eq_some_iff.mp hxs
      obtain ⟨rest, hrest, hxs⟩ := Option.bind_eq_some_iff.mp hxs
      obtain rfl := Option.some.inj hxs
      rw [List.forall_mem_cons] at hv ⊢
      exact ⟨h item hv.1 x hx, ih rest hv.2 hrest⟩
  · cases hxs

theorem Body.wellFormed_of_read (parseDateTime : String → Option DateTime) (v : Json)
    (hv : Valid NumberValid v) (b : Body) (h : Body.read parseDateTime v = some b) : b.WellFormed := by
  obtain ⟨members, hobj, hb⟩ := Body.readFrom_of_read parseDateTime v b h
  rw [Json.asObject_eq_some_iff] at hobj
  subst hobj
  have hext := valid_removeKeys NumberValid Body.names hv
  rw [Valid, Json.validMembers_iff] at hv
  refine ⟨?_, ?_, ?_, hb.extensions ▸ hext, hb.extensions ▸ free_removeKeys _ _⟩
  · intro w hw
    obtain ⟨-, hnone⟩ | ⟨u, a, hu, -, ha, hsome⟩ := optionField_cases "metadata" _ hb.metadata
    · rw [hnone] at hw
      cases hw
    · rw [hsome] at hw
      obtain rfl := Option.some.inj hw
      obtain rfl := Option.some.inj ha
      exact valid_of_lookup members hv.2 _ u hu
  · obtain ⟨w, hw, hread⟩ := Option.bind_eq_some_iff.mp hb.dataRefs
    exact forall_mem_readItems DataRef.read _ DataRef.wellFormed_of_read w
      (valid_of_lookup members hv.2 _ w hw) _ hread
  · intro as has
    obtain ⟨-, hnone⟩ | ⟨w, xs, hw, hread, hsome⟩ := presentField_cases "anchors" _ hb.anchors
    · rw [hnone] at has
      cases has
    · rw [hsome] at has
      obtain rfl := Option.some.inj has
      exact forall_mem_readItems AnchorEntry.read _ AnchorEntry.wellFormed_of_read w
        (valid_of_lookup members hv.2 _ w hw) _ hread

end WellFormed

section Values

theorem keys_optional_sublist {α : Type} (key : String) (write : α → Json) (value : Option α) :
    ((Json.optional key write value).map Prod.fst).Sublist [key] := by
  cases value <;> simp [Json.optional]

theorem forall_mem_optional {α : Type} (P : String × Json → Prop) (key : String) (write : α → Json)
    (value : Option α) : (∀ m ∈ Json.optional key write value, P m) ↔ ∀ a ∈ value, P (key, write a) := by
  cases value <;> simp [Json.optional]

theorem valid_flattened (names : List String) (hnames : names.Nodup)
    (fields extensions : List (String × Json)) (hkeys : (fields.map Prod.fst).Sublist names)
    (hvalues : ∀ m ∈ fields, Valid NumberValid m.2)
    (hext : Valid NumberValid (.obj extensions)) (hfree : ∀ k ∈ extensions.map Prod.fst, k ∉ names) :
    Valid NumberValid (.obj (flattened fields extensions)) := by
  rw [(freeExtensions names extensions hext hfree).flattened_eq hkeys.subset, Valid, Json.validMembers_iff,
    List.map_append]
  rw [Valid, Json.validMembers_iff] at hext
  refine ⟨(hnames.sublist hkeys).append hext.1 ?_, List.forall_mem_append.mpr ⟨hvalues, hext.2⟩⟩
  exact fun k hk hk' => hfree k hk' (hkeys.subset hk)

theorem valid_strs (xs : List String) : Valid NumberValid (strs xs) := by
  rw [strs, Valid, Json.validItems_iff]
  intro v hv
  obtain ⟨s, -, rfl⟩ := List.mem_map.mp hv
  rw [Valid]
  trivial

theorem valid_str (s : String) : Valid NumberValid (.str s) := by
  rw [Valid]
  trivial

theorem valid_posInt (n : UInt64) : Valid NumberValid (.num (.posInt n)) := by
  simp [Valid, NumberValid]

theorem valid_map {α : Type} (write : α → Json) (xs : List α) (h : ∀ x ∈ xs, Valid NumberValid (write x)) :
    Valid NumberValid (.arr (xs.map write)) := by
  rw [Valid, Json.validItems_iff]
  intro v hv
  obtain ⟨x, hx, rfl⟩ := List.mem_map.mp hv
  exact h x hx

theorem EmbeddedContent.valid_toValue (e : EmbeddedContent) (h : Valid NumberValid e.content) :
    Valid NumberValid e.toValue := by
  cases hhash : e.contentHash <;>
    simp [EmbeddedContent.toValue, hhash, Json.optional, Valid, Json.ValidMembers, h]

theorem DataRef.valid_toValue (d : DataRef) (h : d.WellFormed) : Valid NumberValid d.toValue := by
  refine valid_flattened DataRef.names (by decide) d.fields d.extensions ?_ ?_ h.extensions h.free
  · simp only [DataRef.fields, List.map_append]
    exact (((((((List.Sublist.refl ["type"]).append (keys_optional_sublist ..)).append
      (keys_optional_sublist ..)).append (keys_optional_sublist ..)).append (keys_optional_sublist ..)).append
      (keys_optional_sublist ..)).append (keys_optional_sublist ..)).append (keys_optional_sublist ..)
  · simp only [DataRef.fields, List.forall_mem_append, forall_mem_optional, List.forall_mem_singleton]
    exact ⟨⟨⟨⟨⟨⟨⟨valid_str _, fun _ _ => valid_str _⟩, fun _ _ => valid_posInt _⟩, fun _ _ => valid_str _⟩,
      fun _ _ => valid_str _⟩, fun _ _ => valid_str _⟩, h.location⟩,
      fun e he => EmbeddedContent.valid_toValue e (h.embedded e he)⟩

theorem AnchorEntry.valid_toValue (a : AnchorEntry) (h : a.WellFormed) : Valid NumberValid a.toValue := by
  refine valid_flattened AnchorEntry.names (by decide) a.fields a.extensions ?_ ?_ h.extensions h.free
  · simp only [AnchorEntry.fields, List.map_append]
    exact (List.Sublist.refl ["scheme", "content_hash"]).append (keys_optional_sublist ..)
  · simp only [AnchorEntry.fields, List.forall_mem_append, forall_mem_optional, List.forall_mem_cons]
    exact ⟨⟨valid_str _, valid_str _, fun _ hm => absurd hm List.not_mem_nil⟩, fun _ _ => valid_str _⟩

variable (env : WireEnv) (b : Body)

theorem Body.keys_fields : ((b.fields env).map Prod.fst).Sublist Body.names := by
  simp only [Body.fields, List.map_append]
  exact (((((((((((List.Sublist.refl (Body.names.take 15)).append (keys_optional_sublist ..)).append
    (keys_optional_sublist ..)).append (keys_optional_sublist ..)).append (keys_optional_sublist ..)).append
    (keys_optional_sublist ..)).append (keys_optional_sublist ..)).append (keys_optional_sublist ..)).append
    (keys_optional_sublist ..)).append (keys_optional_sublist ..)).append (keys_optional_sublist ..)).append
    (keys_optional_sublist ..)

theorem Body.valid_toValue (h : b.WellFormed) : Valid NumberValid (b.toValue env) := by
  refine valid_flattened Body.names (by decide) (b.fields env) b.extensions (b.keys_fields env)
    ?_ h.extensions h.free
  have hsupersedes : Valid NumberValid (nullable b.supersedes) := by
    cases b.supersedes <;> simp [nullable, Valid]
  have hsignature : Valid NumberValid b.signature.toValue := by
    simp [Signature.toValue, Valid, Json.ValidMembers]
  have hrefs := valid_map DataRef.toValue b.dataRefs (fun d hd => d.valid_toValue (h.dataRefs d hd))
  simp only [Body.fields, List.forall_mem_append, forall_mem_optional, List.forall_mem_cons]
  refine ⟨⟨⟨⟨⟨⟨⟨⟨⟨⟨⟨?_, fun _ _ => valid_strs _⟩, fun _ _ => valid_str _⟩, fun _ _ => valid_str _⟩,
    fun _ _ => valid_str _⟩, fun _ _ => valid_strs _⟩, fun _ _ => valid_str _⟩, fun _ _ => valid_str _⟩, ?_⟩,
    h.metadata⟩, fun _ _ => valid_str _⟩, ?_⟩
  · exact ⟨valid_str _, valid_str _, valid_str _, valid_str _, valid_str _, hsignature, valid_posInt _,
      hsupersedes, valid_str _, valid_strs _, valid_str _, valid_str _, hrefs, valid_strs _, valid_str _,
      fun _ hm => absurd hm List.not_mem_nil⟩
  · intro p _
    simp [DataPeriod.toValue, Valid, Json.ValidMembers]
  · intro as has
    exact valid_map AnchorEntry.toValue as (fun a ha => a.valid_toValue (h.anchors as has a ha))

end Values

section Told

variable (parseDateTime : String → Option DateTime)

/-- The producer-controlled fields other than the instants, as a reader finds them among the members. The type
is told by its name only, and a `null` metadata like none. -/
structure Body.TextFrom (members : List (String × Json)) (b : Body) : Prop where
  version : (requiredField members "version" (Json.asUInt 32)).map UInt32.ofNat = some b.version
  supersedes : optionField members "supersedes" Json.asStr = some b.supersedes
  agentId : requiredField members "agent_id" Json.asStr = some b.agentId
  contributors : requiredField members "contributors" (Json.readItems Json.asStr) = some b.contributors
  title : requiredField members "title" Json.asStr = some b.title
  contextType : requiredField members "type" Json.asStr = some b.contextType.wire
  dataRefs : requiredField members "data_refs" (Json.readItems DataRef.read) = some b.dataRefs
  derivedFrom : requiredField members "derived_from" (Json.readItems Json.asStr) = some b.derivedFrom
  visibility : requiredField members "visibility" Visibility.read = some b.visibility
  audience : optionField members "audience" (Json.readItems Json.asStr) = some b.audience
  acdpVersion : presentField members "acdp_version" Json.asStr = some b.acdpVersion
  description : presentField members "description" Json.asStr = some b.description
  summary : presentField members "summary" Json.asStr = some b.summary
  tags : presentField members "tags" (Json.readItems Json.asStr) = some b.tags
  domain : presentField members "domain" Json.asStr = some b.domain
  metadata : optionField members "metadata" some = some (b.metadata.filter (· ≠ .null))
  schemaUri : presentField members "schema_uri" Json.asStr = some b.schemaUri
  anchors : presentField members "anchors" (Json.readItems AnchorEntry.read) = some b.anchors
  extensions : b.extensions = removeKeys Body.names members

structure Body.InstantsFrom (members : List (String × Json)) (b : Body) : Prop where
  expiresAt : optionField members "expires_at" (readInstant parseDateTime) = some b.expiresAt
  dataPeriod : optionField members "data_period" (DataPeriod.read parseDateTime) = some b.dataPeriod

def Body.textNames : List String :=
  ["version", "supersedes", "agent_id", "contributors", "title", "type", "data_refs", "derived_from",
    "visibility", "audience", "acdp_version", "description", "summary", "tags", "domain", "metadata",
    "schema_uri", "anchors"]

variable {members members' : List (String × Json)} {b b' : Body}

theorem Body.TextFrom.congr (h : Body.TextFrom members b)
    (hlookup : ∀ k ∈ Body.textNames, members'.lookup k = members.lookup k)
    (hext : removeKeys Body.names members' = removeKeys Body.names members) : Body.TextFrom members' b := by
  have hrequired {α : Type} (read : Json → Option α) (k : String) (hk : k ∈ Body.textNames) :
      requiredField members' k read = requiredField members k read := by
    rw [requiredField, requiredField, hlookup k hk]
  have hpresent {α : Type} (read : Json → Option α) (k : String) (hk : k ∈ Body.textNames) :
      presentField members' k read = presentField members k read := by
    rw [presentField, presentField, hlookup k hk]
  have hoption {α : Type} (read : Json → Option α) (k : String) (hk : k ∈ Body.textNames) :
      optionField members' k read = optionField members k read := by
    rw [optionField, optionField, hlookup k hk]
  exact {
    version := by rw [hrequired _ _ (by decide), h.version]
    supersedes := by rw [hoption _ _ (by decide), h.supersedes]
    agentId := by rw [hrequired _ _ (by decide), h.agentId]
    contributors := by rw [hrequired _ _ (by decide), h.contributors]
    title := by rw [hrequired _ _ (by decide), h.title]
    contextType := by rw [hrequired _ _ (by decide), h.contextType]
    dataRefs := by rw [hrequired _ _ (by decide), h.dataRefs]
    derivedFrom := by rw [hrequired _ _ (by decide), h.derivedFrom]
    visibility := by rw [hrequired _ _ (by decide), h.visibility]
    audience := by rw [hoption _ _ (by decide), h.audience]
    acdpVersion := by rw [hpresent _ _ (by decide), h.acdpVersion]
    description := by rw [hpresent _ _ (by decide), h.description]
    summary := by rw [hpresent _ _ (by decide), h.summary]
    tags := by rw [hpresent _ _ (by decide), h.tags]
    domain := by rw [hpresent _ _ (by decide), h.domain]
    metadata := by rw [hoption _ _ (by decide), h.metadata]
    schemaUri := by rw [hpresent _ _ (by decide), h.schemaUri]
    anchors := by rw [hpresent _ _ (by decide), h.anchors]
    extensions := by rw [hext, h.extensions] }

theorem Body.InstantsFrom.congr (h : Body.InstantsFrom parseDateTime members b)
    (hexpires : members'.lookup "expires_at" = members.lookup "expires_at")
    (hperiod : members'.lookup "data_period" = members.lookup "data_period") :
    Body.InstantsFrom parseDateTime members' b := by
  refine ⟨?_, ?_⟩
  · rw [optionField, hexpires]
    exact h.expiresAt
  · rw [optionField, hperiod]
    exact h.dataPeriod

/-- The body as its hash tells it. -/
def Body.plain (b : Body) : Body :=
  { b with contextType := .custom b.contextType.wire, metadata := b.metadata.filter (· ≠ .null) }

theorem Body.plain_eq_of_same {fmt : FloatFormat} (h : JcsSame fmt (.obj members) (.obj members'))
    (hb : Body.TextFrom members b) (hi : Body.InstantsFrom parseDateTime members b)
    (hb' : Body.TextFrom members' b') (hi' : Body.InstantsFrom parseDateTime members' b') :
    b.plain.producerContent fmt = b'.plain.producerContent fmt := by
  have hl : LookupSame fmt members members' := SameValid.lookup members members' h
  have hversion : b.version = b'.version := by
    obtain ⟨m, hm, hv⟩ := Option.map_eq_some_iff.mp hb.version
    obtain ⟨n, hn, hw⟩ := Option.map_eq_some_iff.mp hb'.version
    rw [← hv, ← hw, hl.required_eq (stable_asUInt 32) _ _ _ hm hn]
  have hrender : Stable fmt some (render fmt) := by
    intro v w hvw x y hx hy
    rw [← Option.some.inj hx, ← Option.some.inj hy]
    exact hvw.render_eq
  have hmetadata := hl.option hrender _ _ _ hb.metadata hb'.metadata
  have hextensions := render_removeKeys Body.names members members' h
  rw [← hb.extensions, ← hb'.extensions] at hextensions
  have hstrs : Stable fmt (Json.readItems Json.asStr) id := stable_items stable_asStr
  simp only [Body.producerContent, Body.plain, ProducerContent.mk.injEq, ContextType.custom.injEq]
  exact ⟨hversion, hl.option_eq stable_asStr _ _ _ hb.supersedes hb'.supersedes,
    hl.required_eq stable_asStr _ _ _ hb.agentId hb'.agentId,
    hl.required_eq hstrs _ _ _ hb.contributors hb'.contributors,
    hl.required_eq stable_asStr _ _ _ hb.title hb'.title,
    hl.required_eq stable_asStr _ _ _ hb.contextType hb'.contextType,
    hl.required (stable_readItems stable_dataRef) _ _ _ hb.dataRefs hb'.dataRefs,
    hl.required_eq hstrs _ _ _ hb.derivedFrom hb'.derivedFrom,
    hl.required_eq (stable_of_variant _) _ _ _ hb.visibility hb'.visibility,
    hl.option_eq hstrs _ _ _ hb.audience hb'.audience,
    hl.present_eq stable_asStr _ _ _ hb.acdpVersion hb'.acdpVersion,
    hl.present_eq stable_asStr _ _ _ hb.description hb'.description,
    hl.present_eq stable_asStr _ _ _ hb.summary hb'.summary,
    hl.present_eq hstrs _ _ _ hb.tags hb'.tags,
    hl.present_eq stable_asStr _ _ _ hb.domain hb'.domain,
    hl.option_eq (stable_of_text _) _ _ _ hi.expiresAt hi'.expiresAt,
    hl.option_eq (stable_dataPeriod parseDateTime) _ _ _ hi.dataPeriod hi'.dataPeriod, hmetadata,
    hl.present_eq stable_asStr _ _ _ hb.schemaUri hb'.schemaUri,
    hl.present (stable_readItems stable_anchor) _ _ _ hb.anchors hb'.anchors, hextensions⟩

end Told

section Sources

variable (parseDateTime : String → Option DateTime)

theorem ContextType.wire_of_ofWire (s : String) (t : ContextType) (h : ContextType.ofWire s = some t) :
    t.wire = s := by
  unfold ContextType.ofWire at h
  split_ifs at h with h₁ h₂ h₃ h₄ h₅ h₆ <;> obtain rfl := Option.some.inj h
  · exact h₁.symm
  · exact h₂.symm
  · exact h₃.symm
  · exact h₄.symm
  · exact h₅.symm
  · rfl

variable {members : List (String × Json)} {b : Body}

theorem Body.ReadFrom.text (h : Body.ReadFrom parseDateTime members b) : Body.TextFrom members b where
  version := h.version
  supersedes := h.supersedes
  agentId := h.agentId
  contributors := h.contributors
  title := h.title
  contextType := by
    obtain ⟨v, hv, hread⟩ := Option.bind_eq_some_iff.mp h.contextType
    obtain ⟨s, hs, hwire⟩ := Option.bind_eq_some_iff.mp hread
    rw [requiredField, hv, Option.bind_some, hs, ContextType.wire_of_ofWire s _ hwire]
  dataRefs := h.dataRefs
  derivedFrom := h.derivedFrom
  visibility := h.visibility
  audience := h.audience
  acdpVersion := h.acdpVersion
  description := h.description
  summary := h.summary
  tags := h.tags
  domain := h.domain
  metadata := by
    rw [h.metadata]
    obtain ⟨-, hnone⟩ | ⟨v, a, -, hv, ha, hsome⟩ := optionField_cases "metadata" _ h.metadata
    · rw [hnone]
      rfl
    · obtain rfl := Option.some.inj ha
      rw [hsome, Option.filter_some, if_pos (decide_eq_true hv)]
  schemaUri := h.schemaUri
  anchors := h.anchors
  extensions := h.extensions

variable (env : WireEnv)

theorem Body.lookup_members (h : b.WellFormed) (k : String) (hk : k ∈ Body.names) :
    (b.members env).lookup k = (b.fields env).lookup k :=
  (freeExtensions Body.names b.extensions h.extensions h.free).lookup_flattened k hk

theorem Body.textFrom_members (h : b.WellFormed) : Body.TextFrom (b.members env) b := by
  have hlookup := Body.lookup_members env h
  have hrefs (d : DataRef) (hd : d ∈ b.dataRefs) : DataRef.read d.toValue = some d :=
    DataRef.read_toValue d (freeExtensions _ _ (h.dataRefs d hd).extensions (h.dataRefs d hd).free)
  have hanchors (as : List AnchorEntry) (has : as ∈ b.anchors) (a : AnchorEntry) (ha : a ∈ as) :
      AnchorEntry.read a.toValue = some a :=
    AnchorEntry.read_toValue a
      (freeExtensions _ _ (h.anchors as has a ha).extensions (h.anchors as has a ha).free)
  exact {
    version := by
      rw [requiredField_of_lookup (fun n => .num (.posInt (UInt64.ofNat n))) b.version.toNat]
      · rw [Option.map_some, UInt32.ofNat_toNat]
      · rw [hlookup _ (by decide)]
        simp [Body.fields, List.lookup_cons]
      · exact asUInt_posInt 32 _ _ (by simp) b.version.toNat_lt
    supersedes := by
      have hfield : (b.members env).lookup "supersedes" = some (nullable b.supersedes) := by
        rw [hlookup _ (by decide)]
        simp [Body.fields, List.lookup_cons]
      rw [optionField, hfield]
      cases b.supersedes <;> rfl
    agentId := requiredField_of_lookup .str _ (by
      rw [hlookup _ (by decide)]
      simp [Body.fields, List.lookup_cons]) rfl
    contributors := requiredField_of_lookup strs _ (by
      rw [hlookup _ (by decide)]
      simp [Body.fields, List.lookup_cons]) (readItems_strs _)
    title := requiredField_of_lookup .str _ (by
      rw [hlookup _ (by decide)]
      simp [Body.fields, List.lookup_cons]) rfl
    contextType := requiredField_of_lookup .str _ (by
      rw [hlookup _ (by decide)]
      simp [Body.fields, List.lookup_cons]) rfl
    dataRefs := requiredField_of_lookup (fun ds => .arr (ds.map DataRef.toValue)) _ (by
      rw [hlookup _ (by decide)]
      simp [Body.fields, List.lookup_cons]) (readItems_map _ _ hrefs)
    derivedFrom := requiredField_of_lookup strs _ (by
      rw [hlookup _ (by decide)]
      simp [Body.fields, List.lookup_cons]) (readItems_strs _)
    visibility := requiredField_of_lookup (fun v => .str v.wire) _ (by
      rw [hlookup _ (by decide)]
      simp [Body.fields, List.lookup_cons]) (Visibility.read_wire _)
    audience := optionField_of_lookup strs _ (by
      rw [hlookup _ (by decide)]
      simp [Body.fields, lookup_append, lookup_optional, List.lookup_cons]) (fun _ _ => readItems_strs _)
      (by simp [strs])
    acdpVersion := presentField_of_lookup .str _ (by
      rw [hlookup _ (by decide)]
      simp [Body.fields, lookup_append, lookup_optional, List.lookup_cons]) (fun _ _ => rfl)
    description := presentField_of_lookup .str _ (by
      rw [hlookup _ (by decide)]
      simp [Body.fields, lookup_append, lookup_optional, List.lookup_cons]) (fun _ _ => rfl)
    summary := presentField_of_lookup .str _ (by
      rw [hlookup _ (by decide)]
      simp [Body.fields, lookup_append, lookup_optional, List.lookup_cons]) (fun _ _ => rfl)
    tags := presentField_of_lookup strs _ (by
      rw [hlookup _ (by decide)]
      simp [Body.fields, lookup_append, lookup_optional, List.lookup_cons]) (fun _ _ => readItems_strs _)
    domain := presentField_of_lookup .str _ (by
      rw [hlookup _ (by decide)]
      simp [Body.fields, lookup_append, lookup_optional, List.lookup_cons]) (fun _ _ => rfl)
    metadata := by
      have hfield : (b.members env).lookup "metadata" = b.metadata.map id := by
        rw [hlookup _ (by decide)]
        simp [Body.fields, lookup_append, lookup_optional, List.lookup_cons]
      rw [optionField, hfield]
      cases b.metadata with
      | none => rfl
      | some v => cases v <;> rfl
    schemaUri := presentField_of_lookup .str _ (by
      rw [hlookup _ (by decide)]
      simp [Body.fields, lookup_append, lookup_optional, List.lookup_cons]) (fun _ _ => rfl)
    anchors := presentField_of_lookup (fun as => .arr (as.map AnchorEntry.toValue)) _ (by
      rw [hlookup _ (by decide)]
      simp [Body.fields, lookup_append, lookup_optional, List.lookup_cons])
      (fun as has => readItems_map _ _ (hanchors as has))
    extensions := by
      rw [Body.members, (freeExtensions _ _ h.extensions h.free).removeKeys_flattened
        (b.keys_fields env).subset] }

theorem Body.instantsFrom_members (hchrono : ∀ t, parseDateTime (fmtRfc3339Canonical env t) = some t)
    (h : b.WellFormed) : Body.InstantsFrom parseDateTime (b.members env) b where
  expiresAt := optionField_of_lookup (fun t => .str (fmtRfc3339Canonical env t)) _ (by
    rw [Body.lookup_members env h _ (by decide)]
    simp [Body.fields, lookup_append, lookup_optional, List.lookup_cons]) (fun t _ => hchrono t) (by simp)
  dataPeriod := optionField_of_lookup (DataPeriod.toValue env) _ (by
    rw [Body.lookup_members env h _ (by decide)]
    simp [Body.fields, lookup_append, lookup_optional, List.lookup_cons])
    (fun p _ => DataPeriod.read_toValue env parseDateTime hchrono p) (by simp [DataPeriod.toValue])

end Sources

end Acdp.Types
