import Acdp.Foundation.Entries
import Acdp.Jcs.Injective
import Acdp.Registry.Validator
import Acdp.Types.ClosedRoundTrip
import Acdp.Types.Context
import Acdp.Types.TextParts

namespace Acdp.Registry

open Acdp.Types
open Acdp.Crypto
open Acdp.Foundation.Entries (bind_ok seq_ok_iff discard_ok_iff guard_ok_iff)
open Acdp.Jcs (FloatFormat NumberValid SameNumber tryCanonicalizeValue tryCanonicalizeValue_congr
    tryCanonicalizeValue_ok render writeString)
open Acdp.Types.Json (Valid Same valueEq)
open Acdp.Validation

section Hostname

def isHostChar (c : Char) : Bool := Text.isAsciiLowercase c || Text.isAsciiDigit c || c == '-'

/-- A non-empty run of host characters with a letter or digit at both ends. -/
structure HostRun (l : List Char) : Prop where
  chars : ∀ c ∈ l, isHostChar c = true ∨ c = '.'
  first : ∃ c ∈ l.head?, c ≠ '.'
  last : ∃ c ∈ l.getLast?, c ≠ '.'

theorem hostRun_of_isDnsLabel (label : String) (h : isDnsLabel label = true) : HostRun label.toList := by
  have hend : ∀ c : Char, (Text.isAsciiLowercase c || Text.isAsciiDigit c) = true → c ≠ '.' := by
    rintro c hc rfl
    revert hc
    decide
  simp only [isDnsLabel, Bool.and_eq_true, List.all_eq_true, Option.any_eq_true] at h
  obtain ⟨⟨⟨-, c, hc, hcok⟩, d, hd, hdok⟩, hall⟩ := h
  exact ⟨fun x hx => .inl (hall x hx), ⟨c, hc, hend c hcok⟩, ⟨d, hd, hend d hdok⟩⟩

theorem HostRun.join (l t : List Char) (hl : HostRun l) (ht : HostRun t) : HostRun (l ++ '.' :: t) := by
  obtain ⟨c, hc, hcne⟩ := hl.first
  obtain ⟨d, hd, hdne⟩ := ht.last
  refine ⟨?_, ⟨c, ?_, hcne⟩, ⟨d, ?_, hdne⟩⟩
  · intro x hx
    rcases List.mem_append.mp hx with hx | hx
    · exact hl.chars x hx
    · rcases List.mem_cons.mp hx with rfl | hx
      · exact .inr rfl
      · exact ht.chars x hx
  · rw [List.head?_append, Option.mem_def.mp hc]
    rfl
  · rw [List.getLast?_append, List.getLast?_cons, Option.mem_def.mp hd]
    rfl

theorem hostRun_intercalate (pieces : List (List Char)) (hne : pieces ≠ []) (h : ∀ p ∈ pieces, HostRun p) :
    HostRun (['.'].intercalate pieces) := by
  induction pieces with
  | nil => exact absurd rfl hne
  | cons p rest ih =>
    rw [List.forall_mem_cons] at h
    cases rest with
    | nil => simpa [List.intercalate] using h.1
    | cons q rest =>
      have htail := ih (List.cons_ne_nil _ _) h.2
      have heq : ['.'].intercalate (p :: q :: rest) = p ++ '.' :: ['.'].intercalate (q :: rest) := by
        simp [List.intercalate, List.intersperse]
      rw [heq]
      exact h.1.join _ _ htail

theorem validateOriginRegistry_of_hostname (s : String) (h : isValidDnsAuthority s = true) :
    validateOriginRegistry s = .ok () := by
  have hauth := h
  simp only [isValidDnsAuthority, Bool.and_eq_true, List.all_eq_true] at h
  obtain ⟨⟨hne, -⟩, hlabels⟩ := h
  have hrun : HostRun s.toList := by
    have hsplit : ['.'].intercalate (s.toList.splitOn '.') = s.toList := List.intercalate_splitOn '.'
    rw [← hsplit]
    refine hostRun_intercalate _ (List.splitOn_ne_nil _ _) ?_
    intro p hp
    have hlabel := hostRun_of_isDnsLabel _ (hlabels (String.ofList p) (List.mem_map_of_mem hp))
    rwa [String.toList_ofList] at hlabel
  have hcolon : ':' ∉ s.toList := by
    intro hin
    have := hrun.chars ':' hin
    revert this
    decide
  obtain ⟨c, hc, hcne⟩ := hrun.first
  obtain ⟨d, hd, hdne⟩ := hrun.last
  rw [validateOriginRegistry, if_neg, if_neg, if_neg, if_neg, if_neg (not_not.mpr hauth)]
  · rw [Option.mem_def.mp hc, Option.mem_def.mp hd]
    simp [hcne, hdne]
  · rw [Text.contains, decide_eq_true_eq]
    intro hin
    exact hcolon (hin.subset (by decide))
  · rw [Text.hasPrefix, List.isPrefixOf_iff_prefix]
    intro hin
    exact hcolon (hin.subset (by decide))
  · simpa using hne

end Hostname

section Attestation

theorem utf8ByteSize_ofList (l : List Char) :
    l.length ≤ (String.ofList l).utf8ByteSize ∧ (String.ofList l).utf8ByteSize ≤ 4 * l.length := by
  induction l with
  | nil => simp
  | cons c l ih =>
    have hcons : String.ofList (c :: l) = String.singleton c ++ String.ofList l := by
      rw [← String.toList_inj]
      simp
    rw [hcons, String.utf8ByteSize_append, String.utf8ByteSize_singleton, List.length_cons]
    have hpos := c.utf8Size_pos
    have hle := c.utf8Size_le_four
    omega

theorem length_toList_le (s : String) : s.toList.length ≤ s.utf8ByteSize := by
  have h := (utf8ByteSize_ofList s.toList).1
  rwa [String.ofList_toList] at h

theorem length_utf8 (s : String) : (utf8 s).length = s.utf8ByteSize := by
  rw [utf8, Array.length_toList, ← String.size_toByteArray]
  rfl

theorem length_escapeChar_le (c : Char) : (Jcs.escapeChar c).length ≤ 6 := by
  unfold Jcs.escapeChar
  split_ifs <;> simp [Jcs.hex4]

theorem length_writeString_le (s : String) : (writeString s).length ≤ 6 * s.toList.length + 2 := by
  have hsum : (s.toList.flatMap Jcs.escapeChar).length ≤ 6 * s.toList.length := by
    induction s.toList with
    | nil => simp
    | cons c l ih =>
      rw [List.flatMap_cons, List.length_append, List.length_cons]
      have hc := length_escapeChar_le c
      omega
  rw [writeString, List.length_cons, List.length_append, List.length_singleton]
  omega

theorem CtxId.parse_length (s parsed : String) (h : CtxId.parse s = .ok parsed) : s.toList.length ≤ 297 := by
  unfold CtxId.parse at h
  split at h
  · cases h
  next rest hrest =>
  split at h
  · cases h
  next authority uuid hsplit =>
  split at h
  · cases h
  next hauthority =>
  split at h
  · cases h
  next huuid =>
  rw [Text.stripPrefix_eq_some_iff] at hrest
  obtain ⟨hlist, -⟩ := Text.splitOnceChar_eq_some '/' rest authority uuid hsplit
  have ha : authority.toList.length ≤ 253 := by
    refine (length_toList_le authority).trans ?_
    simp only [isValidDnsAuthority, Bool.and_eq_true, decide_eq_true_eq, not_not] at hauthority
    exact hauthority.1.2
  have hu : uuid.toList.length ≤ 36 := by
    refine (length_toList_le uuid).trans ?_
    simp only [isValidUuidV4, isCanonicalUuid, Bool.and_eq_true, beq_iff_eq, not_not] at huuid
    rw [← length_utf8, huuid.1.1.1]
  rw [hrest, String.toList_append, List.length_append, hlist, List.length_append, List.length_cons]
  have hp : "acdp://".toList.length = 7 := by decide
  omega

theorem ContentHash.parse_length (s parsed : String) (h : ContentHash.parse s = .ok parsed) :
    s.toList.length ≤ 71 := by
  unfold ContentHash.parse at h
  split at h
  · cases h
  next hex hhex =>
  split at h
  · cases h
  next hdigits =>
  rw [Text.stripPrefix_eq_some_iff] at hhex
  have hd : hex.toList.length ≤ 64 := by
    refine (length_toList_le hex).trans ?_
    simp only [isLowerHex64, Bool.and_eq_true, beq_iff_eq, not_not] at hdigits
    rw [hdigits.1]
  rw [hhex, String.toList_append, List.length_append]
  have hp : "sha256:".toList.length = 7 := by decide
  omega

theorem sortKeys_attestation (a b : List Char) :
    Jcs.sortKeys [("ctx_id", a), ("content_hash", b)] = [("content_hash", b), ("ctx_id", a)] := by
  have hle : ¬ Jcs.keyLe ("ctx_id", a) ("content_hash", b) := by
    change ¬ ("ctx_id" : String) ≤ "content_hash"
    decide
  rw [Jcs.sortKeys, List.insertionSort_cons, List.insertionSort_cons, List.insertionSort_nil,
    List.orderedInsert_nil, List.orderedInsert_cons, if_neg hle, List.orderedInsert_nil]

theorem length_render_attestation (fmt : FloatFormat) (r : KeyAttestationRef) :
    (render fmt (.obj [(keyAttestationField, r.toValue)])).length =
      47 + (writeString r.contentHash).length + (writeString r.ctxId).length := by
  have hkey : (writeString keyAttestationField).length = 17 := by decide
  have hhash : (writeString "content_hash").length = 14 := by decide
  have hctx : (writeString "ctx_id").length = 8 := by decide
  simp only [render, Jcs.renderMembers, KeyAttestationRef.toValue, Jcs.writeObject, sortKeys_attestation]
  simp [Jcs.sortKeys, Jcs.writeMember, List.intercalate, List.intersperse, hkey, hhash, hctx]
  omega

theorem validateExtensions_attestation (env : PublishEnv) (fmt : FloatFormat)
    (hjcs : env.canonicalize = tryCanonicalizeValue fmt) (r : KeyAttestationRef) (hr : r.validate = .ok ()) :
    validateExtensions env.toEnv [(keyAttestationField, r.toValue)] = .ok () := by
  rw [KeyAttestationRef.validate] at hr
  simp only [discard_ok_iff] at hr
  obtain ⟨⟨ctxId, hctx⟩, ⟨hash, hhash⟩, -⟩ := hr
  have hctxLength := CtxId.parse_length r.ctxId ctxId hctx
  have hhashLength := ContentHash.parse_length r.contentHash hash hhash
  have hctxText := length_writeString_le r.ctxId
  have hhashText := length_writeString_le r.contentHash
  have hrender := length_render_attestation fmt r
  have hbytes := (utf8ByteSize_ofList (render fmt (.obj [(keyAttestationField, r.toValue)]))).2
  have hdepth : Json.depth (.obj [(keyAttestationField, r.toValue)]) ≤ 256 := by
    simp [KeyAttestationRef.toValue, Json.depth, Json.depthMembers]
  have hscan : jsonDepth (.obj [(keyAttestationField, r.toValue)]) = 2 := by
    rfl
  have hsize : ¬ maxMetadataJcsBytes <
      (utf8 (String.ofList (render fmt (.obj [(keyAttestationField, r.toValue)])))).length := by
    rw [length_utf8, maxMetadataJcsBytes]
    omega
  rw [validateExtensions, if_neg (by simp), validateJsonObjectLimits]
  simp only [Json.asObject, guard_ok_iff, hscan, hjcs, tryCanonicalizeValue_ok fmt _ hdepth]
  refine ⟨by simp [maxMetadataProperties], by simp [maxMetadataDepth], ?_⟩
  simp only [bind, Except.bind, if_neg hsize]
  rfl

end Attestation

section Materialization

variable (env : PublishEnv) (req : PublishRequest)

def AttestationParsesBack : Prop :=
  ∀ r, req.keyAttestation = some r → env.attestationRefDeserialize r.toValue = .ok r

theorem keyAttestation_fromPublishRequest (h : req.keyAttestation.forM KeyAttestationRef.validate = .ok ())
    (hback : AttestationParsesBack env req) (ctxId : CtxId) (lineageId : LineageId) (originRegistry : String)
    (now : DateTime) :
    (Body.fromPublishRequest req ctxId lineageId originRegistry now).keyAttestation env.toEnv =
      .ok req.keyAttestation := by
  rw [Body.keyAttestation, Body.fromPublishRequest]
  cases hr : req.keyAttestation with
  | none => rfl
  | some r =>
    rw [hr] at h
    have hvalidate : r.validate = .ok () := h
    simp [hback r hr, hvalidate, bind, Except.bind, pure, Except.pure]

theorem validateExtensions_fromPublishRequest (fmt : FloatFormat)
    (hjcs : env.canonicalize = tryCanonicalizeValue fmt)
    (h : req.keyAttestation.forM KeyAttestationRef.validate = .ok ()) (ctxId : CtxId) (lineageId : LineageId)
    (originRegistry : String) (now : DateTime) :
    validateExtensions env.toEnv (Body.fromPublishRequest req ctxId lineageId originRegistry now).extensions =
      .ok () := by
  rw [Body.fromPublishRequest]
  cases hr : req.keyAttestation with
  | none => rfl
  | some r =>
    rw [hr] at h
    exact validateExtensions_attestation env fmt hjcs r h

theorem validateBody_fromPublishRequest (fmt : FloatFormat)
    (hjcs : env.canonicalize = tryCanonicalizeValue fmt) (h : validatePublishRequest env req = .ok ())
    (hback : AttestationParsesBack env req) (ctxId : CtxId)
    (lineageId : LineageId) (originRegistry : String) (now : DateTime) (hctx : CtxId.parse ctxId = .ok ctxId)
    (hlineage : LineageId.parse lineageId = .ok lineageId)
    (horigin : isValidDnsAuthority originRegistry = true) :
    validateBody env (Body.fromPublishRequest req ctxId lineageId originRegistry now) = .ok () := by
  rw [validatePublishRequest] at h
  simp only [discard_ok_iff] at h
  obtain ⟨htitle, hdescription, hsummary, hdomain, hagent, hcontributors, huniqueContributors,
    hderived, htags, haudience, hvisibility, hperiod, -, hmetadata, hrefs, hanchors, ⟨_, hattestation⟩,
    hpresence, hlength, hkeyForm,
    hhash, hsupersedes, hancestors, -, hversion, -, -⟩ := h
  have hbind : ∀ {α β : Type} (a : α) (f : α → Except AcdpError β), (Except.ok a >>= f) = f a :=
    fun _ _ => rfl
  rw [validateBody, validateBodyInner, keyAttestation_fromPublishRequest env req hattestation hback]
  simp only [hbind, discard_ok_iff, if_true, validateIdentifiers]
  exact ⟨htitle, hdescription, hsummary, hdomain, hagent, hcontributors, huniqueContributors, hderived, htags,
    haudience, hvisibility, hperiod, hmetadata,
    ⟨(), validateExtensions_fromPublishRequest env req fmt hjcs hattestation _ _ _ _⟩, hrefs,
    hanchors, hpresence,
    hlength, hkeyForm, ⟨(), ⟨_, hctx⟩, ⟨_, hlineage⟩, hhash, rfl⟩, hsupersedes, hancestors, hversion,
    validateOriginRegistry_of_hostname originRegistry horigin⟩

theorem members_fromPublishRequest (ctxId : CtxId) (lineageId : LineageId) (originRegistry : String)
    (now : DateTime) (body : Body)
    (hbody : body = Body.fromPublishRequest req ctxId lineageId originRegistry now) :
    body.members env.toWireEnv =
      body.fields env.toWireEnv ++ Json.optional keyAttestationField KeyAttestationRef.toValue
        req.keyAttestation := by
  have hext : body.extensions = Json.optional keyAttestationField KeyAttestationRef.toValue
      req.keyAttestation := by
    rw [hbody]
    rfl
  rw [Body.members, hext]
  cases hr : req.keyAttestation with
  | none => simp [Json.optional, Json.flattened]
  | some r =>
    have hout : keyAttestationField ∉ (body.fields env.toWireEnv).map Prod.fst := by
      rw [Body.fields]
      simp only [List.map_append, List.mem_append, keys_optional, keyAttestationField]
      simp
    simp [Json.optional, Json.flattened, Json.insertMember, hout]

theorem removeKeys_fromPublishRequest (ctxId : CtxId) (lineageId : LineageId) (originRegistry : String)
    (now : DateTime) :
    removeKeys contentHashExclude
        ((Body.fromPublishRequest req ctxId lineageId originRegistry now).members env.toWireEnv) =
      removeKeys contentHashExclude (req.members env.toWireEnv) := by
  rw [members_fromPublishRequest env req ctxId lineageId originRegistry now _ rfl, PublishRequest.members,
    Body.fields]
  simp only [removeKeys_append, removeKeys_optional, contentHashExclude, keyAttestationField]
  simp [removeKeys, Body.fromPublishRequest]

theorem computeContentHash_fromPublishRequest (ctxId : CtxId) (lineageId : LineageId)
    (originRegistry : String) (now : DateTime) :
    computeContentHash env.toEnv
        ((Body.fromPublishRequest req ctxId lineageId originRegistry now).toValue env.toWireEnv) =
      computeContentHash env.toEnv (req.toValue env.toWireEnv) := by
  change hashOfMembers env.toEnv _ = hashOfMembers env.toEnv _
  rw [removeKeys_fromPublishRequest]

end Materialization

theorem computeContentHash_congr (env : Env) (fmt : FloatFormat)
    (hjcs : env.canonicalize = tryCanonicalizeValue fmt) (a b : Json) (ha : Valid NumberValid a)
    (hb : Valid NumberValid b) (h : Same Eq a b) :
    computeContentHash env a = computeContentHash env b := by
  cases a with
  | obj as =>
    cases b with
    | obj bs =>
      have hsame := same_removeKeys NumberValid Eq contentHashExclude as bs ha hb h
      change hashOfMembers env _ = hashOfMembers env _
      rw [hashOfMembers, hashOfMembers, hjcs,
        tryCanonicalizeValue_congr fmt _ _ (valid_removeKeys _ _ ha) (valid_removeKeys _ _ hb)]
      exact Json.Same.mono (fun m n he => by rw [SameNumber, he]) _ _ hsame
    | _ => simp [Same] at h
  | _ => cases b <;> first | rfl | simp [Same] at h

/-- What reaches the consumer: the serialized context up to the order of its members, through codecs that
parse back what they emitted for it. -/
structure ServedAs (env : PublishEnv) (codec : StateCodec) (ctx : FullContext) (served : Json) : Prop where
  names : ∀ name ∈ ["body", "registry_state"], name ∉ ctx.extensions.map Prod.fst
  emitted : Valid NumberValid (ctx.toValue env.toWireEnv codec)
  received : Valid NumberValid served
  same : Same Eq (ctx.toValue env.toWireEnv codec) served
  body : ∀ raw, Same Eq (ctx.body.toValue env.toWireEnv) raw → env.bodyDeserialize raw = .ok ctx.body
  state : ∀ v, Same Eq (codec.toValue ctx.registryState) v → codec.deserialize v = some ctx.registryState

section Served

variable {env : PublishEnv} {codec : StateCodec} {ctx : FullContext} {served : Json}

theorem ServedAs.read_eq (h : ServedAs env codec ctx served) :
    ∃ consumer raw, FullContext.read env.toEnv codec served = some consumer ∧ consumer.body = ctx.body ∧
      consumer.rawBody = some raw ∧ Same Eq (ctx.body.toValue env.toWireEnv) raw ∧
      Valid NumberValid (ctx.body.toValue env.toWireEnv) ∧ Valid NumberValid raw := by
  have hsame := h.same
  have hreceived := h.received
  have hemitted := h.emitted
  rw [FullContext.toValue] at hsame hemitted
  cases hserved : served with
  | obj members =>
    rw [hserved] at hsame hreceived
    rw [Valid, Json.validMembers_iff] at hemitted hreceived
    rw [Json.same_obj_iff_lookup Eq _ _ hemitted.1 hreceived.1] at hsame
    have hbody := hsame "body"
    have hstate := hsame "registry_state"
    have hbodyLookup : (Json.flattened (ctx.fields env.toWireEnv codec) ctx.extensions).lookup "body" =
        some (ctx.body.toValue env.toWireEnv) := by
      rw [lookup_flattened _ _ _ (h.names "body" (by simp))]
      rfl
    have hstateLookup : (Json.flattened (ctx.fields env.toWireEnv codec) ctx.extensions).lookup
      "registry_state" = some (codec.toValue ctx.registryState) := by
      rw [lookup_flattened _ _ _ (h.names "registry_state" (by simp))]
      rfl
    rw [hbodyLookup] at hbody
    rw [hstateLookup] at hstate
    cases hraw : members.lookup "body" with
    | none =>
      rw [hraw] at hbody
      cases hbody
    | some raw =>
      cases hst : members.lookup "registry_state" with
      | none =>
        rw [hst] at hstate
        cases hstate
      | some st =>
        rw [hraw] at hbody
        rw [hst] at hstate
        cases hbody with
        | some hbodySame =>
          cases hstate with
          | some hstateSame =>
            have hread : FullContext.read env.toEnv codec (.obj members) = some {
                body := ctx.body
                registryState := ctx.registryState
                registryReceipt := FullContext.valueField members "registry_receipt"
                lineageHeadReceipt := FullContext.valueField members "lineage_head_receipt"
                logInclusion := FullContext.valueField members "log_inclusion"
                extensions := removeKeys FullContext.names members
                rawBody := some raw } := by
              simp [FullContext.read, Json.asObject, hraw, hst, h.state st hstateSame, h.body raw hbodySame,
                Except.toOption]
            exact ⟨_, raw, hread, rfl, rfl, hbodySame, hemitted.2 _ (Json.mem_of_lookup _ _ _ hbodyLookup),
              hreceived.2 _ (Json.mem_of_lookup _ _ _ hraw)⟩
  | _ =>
    rw [hserved] at hsame
    simp [Same] at hsame

theorem verifyContextHash_served (fmt : FloatFormat) (hjcs : env.canonicalize = tryCanonicalizeValue fmt)
    (consumer : FullContext) (raw : Json) (hbody : consumer.body = ctx.body)
    (hraw : consumer.rawBody = some raw)
    (hsame : Same Eq (ctx.body.toValue env.toWireEnv) raw)
    (hvalid : Valid NumberValid (ctx.body.toValue env.toWireEnv))
    (hrawValid : Valid NumberValid raw) (hback : env.bodyDeserialize raw = .ok ctx.body) :
    verifyContextHash env.toWireEnv consumer = .ok () ↔
      computeContentHash env.toEnv (ctx.body.toValue env.toWireEnv) = .ok ctx.body.contentHash := by
  have hdescribes : rawDescribesBody env.toWireEnv raw ctx.body = true := by
    rw [rawDescribesBody, hback]
    dsimp only
    rw [Json.valueEq_iff_same]
    exact Json.same_refl NumberValid _ (fun n => by cases n <;> simp [Json.numberEq]) _ hvalid
  rw [verifyContextHash, hraw, hbody]
  dsimp only
  rw [verifyRawBodyHash, if_pos hdescribes, verifyContentHash_ok_iff,
    computeContentHash_congr env.toEnv fmt hjcs _ _ hvalid hrawValid hsame]

end Served

theorem accepted_publish_verifies_iff (env : PublishEnv) (fmt : FloatFormat)
    (hjcs : env.canonicalize = tryCanonicalizeValue fmt) (validator : PublishValidator) (req : PublishRequest)
    (rawBodyBytes : ℕ) (validated : ValidatedPublish)
    (haccepted : PublishValidator.validatePostSchema env validator req rawBodyBytes = .ok validated)
    (hattestation : AttestationParsesBack env req) (ctxId : CtxId) (lineageId : LineageId)
    (originRegistry : String)
    (now : DateTime) (hctx : CtxId.parse ctxId = .ok ctxId)
    (hlineage : LineageId.parse lineageId = .ok lineageId)
    (horigin : isValidDnsAuthority originRegistry = true) (codec : StateCodec) (ctx : FullContext)
    (hbody : ctx.body = Body.fromPublishRequest req ctxId lineageId originRegistry now) (served : Json)
    (hserved : ServedAs env codec ctx served) :
    validateBody env ctx.body = .ok () ∧ ∃ consumer, FullContext.read env.toEnv codec served = some consumer ∧
      consumer.body = ctx.body ∧ (verifyContextHash env.toWireEnv consumer = .ok () ↔
        computeContentHash env.toEnv (req.toValue env.toWireEnv) = .ok req.contentHash) := by
  rw [PublishValidator.validatePostSchema, seq_ok_iff] at haccepted
  refine ⟨?_, ?_⟩
  · rw [hbody]
    exact validateBody_fromPublishRequest env req fmt hjcs haccepted.1 hattestation ctxId lineageId
      originRegistry now hctx hlineage horigin
  · obtain ⟨consumer, raw, hread, hconsumer, hraw, hsame, hvalid, hrawValid⟩ := hserved.read_eq
    refine ⟨consumer, hread, hconsumer, ?_⟩
    rw [verifyContextHash_served fmt hjcs consumer raw hconsumer hraw hsame hvalid hrawValid
      (hserved.body raw hsame), hbody, computeContentHash_fromPublishRequest]
    rfl

section Sample

def canonicalHash : ContentHash := "sha256:75b66aae10cee7c12a650f85e94aaa240ad10bfe75eff8b184529e4c5ad3f06b"

def legacyHash : ContentHash := "sha256:27616d2e393b76fd36f7b9f3b663bef6c262d25f30bbb750cbca69542f70dd9f"

def legacyText : String :=
  "\x7b\"agent_id\":\"did:web:a.example\",\"contributors\":[],\"data_refs\":[],\"derived_from\":[]," ++
  "\"expires_at\":\"2026-01-01T00:00:00Z\",\"supersedes\":null,\"title\":\"T\",\"type\":\"analysis\"," ++
  "\"version\":1,\"visibility\":\"public\"\x7d"

def spellingSha256 (bytes : List UInt8) : Merkle.Digest :=
  if bytes = utf8 legacyText then
    #v[39, 97, 109, 46, 57, 59, 118, 253, 54, 247, 185, 243, 182, 99, 190, 246, 194, 98, 210, 95,
    48, 187, 183, 80, 203, 202, 105, 84, 47, 112, 221, 159]
  else
    #v[117, 182, 106, 174, 16, 206, 231, 193, 42, 101, 15, 133, 233, 74, 170, 36, 10, 209, 11, 254,
    117, 239, 248, 177, 132, 82, 158, 76, 90, 211, 240, 107]

def spellingEnv : PublishEnv :=
  { plainEnv with
    sha256 := spellingSha256
    toRfc3339AutoSi := stampSpelling
    toVecLen := fun _ => 0
    base64Decode := fun _ => .error "Invalid padding"
    requestDeserialize := fun _ => .error "no request"
    debugStr := fun s => "\"" ++ s ++ "\""
    debugAnchor := fun _ => "" }

def expiringRequest (contentHash : ContentHash) : PublishRequest where
  version := 1
  supersedes := none
  agentId := "did:web:a.example"
  contributors := []
  title := "T"
  contextType := .analysis
  dataRefs := []
  derivedFrom := []
  visibility := .public
  contentHash := contentHash
  signature := ⟨"ed25519", "did:web:a.example#k",
    "8vhXust4UiLYrxwaNL2wwQsDjN0K0pe1UfBDujM+zSFHe2lSmu771/yFQ4wxuSl0rt+EPPVG8hhgctA1Bo+2Bg=="⟩
  audience := none
  acdpVersion := none
  description := none
  summary := none
  lineageId := none
  tags := none
  domain := none
  expiresAt := some stamp
  dataPeriod := none
  metadata := none
  schemaUri := none
  anchors := none
  keyAttestation := none

def spellingValidator : PublishValidator where
  caps := {
    anonymousPublicReads := true
    acdpVersion := "0.4.0"
    registryDid := "did:web:r.example"
    supportedSignatureAlgorithms := ["ed25519"]
    supportedDidMethods := ["did:web"]
    limits := ⟨1048576, 65536, none⟩
    supportsIdempotencyKey := false }
  ownAuthority := none

def expiringBody (contentHash : ContentHash) : Body :=
  Body.fromPublishRequest (expiringRequest contentHash)
    "acdp://r.example/11111111-1111-4111-8111-111111111111"
    "lin:sha256:75b66aae10cee7c12a650f85e94aaa240ad10bfe75eff8b184529e4c5ad3f06b" "r.example" stamp

def servingEnv (body : Body) : PublishEnv :=
  { spellingEnv with
    bodyDeserialize := fun raw =>
      if valueEq (body.toValue spellingEnv.toWireEnv) raw then .ok body else .error "invalid body" }

def activeState : RegistryState := ⟨.active, none, none, []⟩

def activeCodec : StateCodec where
  toValue := fun _ => .obj [("status", .str "active")]
  deserialize := fun v => if valueEq (.obj [("status", .str "active")]) v then some activeState else none

def expiringContext (contentHash : ContentHash) : FullContext where
  body := expiringBody contentHash
  registryState := activeState
  registryReceipt := none
  lineageHeadReceipt := none
  logInclusion := none
  extensions := []
  rawBody := none

theorem expiringContext_served (contentHash : ContentHash) :
    ServedAs (servingEnv (expiringBody contentHash)) activeCodec (expiringContext contentHash)
      ((expiringContext contentHash).toValue spellingEnv.toWireEnv activeCodec) := by
  have hvalid : Valid NumberValid ((expiringContext contentHash).toValue spellingEnv.toWireEnv
      activeCodec) := by
    simp [FullContext.toValue, FullContext.fields, expiringContext, expiringBody,
      expiringRequest, activeCodec, Json.flattened, Json.optional, Body.toValue, Body.members, Body.fields,
      Body.fromPublishRequest, Json.strs,
      Signature.toValue, nullable, Valid, Json.ValidMembers, Json.ValidItems, NumberValid]
  refine ⟨by simp [expiringContext], hvalid, hvalid, ?_, ?_, ?_⟩
  · exact Json.same_refl NumberValid Eq (fun _ => rfl) _ hvalid
  · intro raw hsame
    have heq : valueEq ((expiringBody contentHash).toValue spellingEnv.toWireEnv) raw = true := by
      rw [Json.valueEq_iff_same]
      exact Json.Same.mono (fun m n he => by rw [he]; cases n <;> simp [Json.numberEq]) _ _ hsame
    exact if_pos heq
  · intro v hsame
    have heq : valueEq (.obj [("status", .str "active")]) v = true := by
      rw [Json.valueEq_iff_same]
      exact Json.Same.mono (fun m n he => by rw [he]; cases n <;> simp [Json.numberEq]) _ _ hsame
    exact if_pos heq

theorem canonicalRequest_accepted :
    PublishValidator.validatePostSchema (servingEnv (expiringBody canonicalHash)) spellingValidator
      (expiringRequest canonicalHash) 0 = .ok ⟨canonicalHash⟩ := by
  decide +kernel

theorem legacyRequest_accepted :
    PublishValidator.validatePostSchema (servingEnv (expiringBody legacyHash)) spellingValidator
      (expiringRequest legacyHash) 0 = .ok ⟨legacyHash⟩ := by
  decide +kernel

theorem canonicalRequest_hash :
    computeContentHash (servingEnv (expiringBody canonicalHash)).toEnv
      ((expiringRequest canonicalHash).toValue (servingEnv (expiringBody canonicalHash)).toWireEnv) =
      .ok canonicalHash := by
  decide +kernel

theorem legacyRequest_hash :
    computeContentHash (servingEnv (expiringBody legacyHash)).toEnv
      ((expiringRequest legacyHash).toValue (servingEnv (expiringBody legacyHash)).toWireEnv) =
      .ok canonicalHash := by
  decide +kernel

theorem canonicalRequest_verifies :
    ∃ consumer, FullContext.read (servingEnv (expiringBody canonicalHash)).toEnv activeCodec
        ((expiringContext canonicalHash).toValue spellingEnv.toWireEnv activeCodec) = some consumer ∧
      verifyContextHash (servingEnv (expiringBody canonicalHash)).toWireEnv consumer = .ok () := by
  obtain ⟨-, consumer, hread, -, hverify⟩ :=
    accepted_publish_verifies_iff (servingEnv (expiringBody canonicalHash))
      (fun _ => Jcs.one) rfl spellingValidator (expiringRequest canonicalHash) 0 ⟨canonicalHash⟩
      canonicalRequest_accepted
      (fun r hr => by cases hr) _ _ _ stamp (by decide +kernel) (by decide +kernel)
      (by decide +kernel) activeCodec
      (expiringContext canonicalHash) rfl _ (expiringContext_served canonicalHash)
  exact ⟨consumer, hread, hverify.mpr canonicalRequest_hash⟩

theorem legacyRequest_not_verified :
    PublishValidator.validatePostSchema (servingEnv (expiringBody legacyHash)) spellingValidator
        (expiringRequest legacyHash) 0 = .ok ⟨legacyHash⟩ ∧
      ServedAs (servingEnv (expiringBody legacyHash)) activeCodec (expiringContext legacyHash)
        ((expiringContext legacyHash).toValue spellingEnv.toWireEnv activeCodec) ∧
      ∀ consumer, FullContext.read (servingEnv (expiringBody legacyHash)).toEnv activeCodec
          ((expiringContext legacyHash).toValue spellingEnv.toWireEnv activeCodec) = some consumer →
        verifyContextHash (servingEnv (expiringBody legacyHash)).toWireEnv consumer ≠ .ok () := by
  refine ⟨legacyRequest_accepted, expiringContext_served legacyHash, ?_⟩
  intro consumer hread hverify
  obtain ⟨consumer', raw, hread', hbody, hraw, hsame, hvalid, hrawValid⟩ :=
    (expiringContext_served legacyHash).read_eq
  obtain rfl : consumer' = consumer := Option.some.inj (hread'.symm.trans hread)
  have hcanonical :=
    (verifyContextHash_served (fun _ => Jcs.one) rfl consumer' raw hbody hraw hsame hvalid hrawValid
      ((expiringContext_served legacyHash).body raw hsame)).mp hverify
  have hhash := computeContentHash_fromPublishRequest (servingEnv (expiringBody legacyHash))
    (expiringRequest legacyHash) "acdp://r.example/11111111-1111-4111-8111-111111111111"
    "lin:sha256:75b66aae10cee7c12a650f85e94aaa240ad10bfe75eff8b184529e4c5ad3f06b" "r.example" stamp
  rw [legacyRequest_hash] at hhash
  have hne : canonicalHash ≠ legacyHash := by decide
  exact hne (Except.ok.inj (hhash.symm.trans hcanonical))

end Sample

end Acdp.Registry
