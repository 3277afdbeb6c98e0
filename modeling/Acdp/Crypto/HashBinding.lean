import Acdp.Crypto.Binding
import Acdp.Crypto.RawHash
import Acdp.Types.ClosedRoundTrip
import Acdp.Types.Context
import Acdp.Types.JsonAlike
import Acdp.Types.ProducerContent

namespace Acdp.Crypto

open Acdp.Types
open Acdp.Jcs (FloatFormat NumberValid SameNumber tryCanonicalizeValue)
open Acdp.Types.Json (Valid Same SameValid insertMember)

theorem stripSuffix_eq (p s stem : String) (h : Text.stripSuffix p s = some stem) : s = stem ++ p := by
  obtain ⟨rest, hrest, rfl⟩ := Option.map_eq_some_iff.mp h
  rw [List.isPrefixOf?_eq_some_iff_append_eq] at hrest
  have hchars := congrArg List.reverse hrest
  rw [List.reverse_append, List.reverse_reverse, List.reverse_reverse] at hchars
  rw [← String.toList_inj, String.toList_append, String.toList_ofList, hchars]

theorem computeContentHash_eq (env : Env) (members : List (String × Json)) (bytes : List UInt8)
    (h : env.canonicalize (.obj (removeKeys contentHashExclude members)) = .ok bytes) :
    computeContentHash env (.obj members) = .ok (encodeSha256Hex (env.sha256 bytes)) := by
  rw [computeContentHash, Json.asObject]
  show hashOfMembers env _ = _
  rw [hashOfMembers, h]
  rfl

theorem verifyContentHash_mismatch (env : Env) (value : Json) (expected recomputed : ContentHash)
    (h : computeContentHash env value = .ok recomputed) (hne : recomputed ≠ expected) :
    verifyContentHash env value expected = .error (.hashMismatch expected recomputed) := by
  simp [verifyContentHash, h, hne, bind, Except.bind]

section Respelled

variable (parseDateTime : String → Option DateTime)

/-- Chrono reads the canonical rendering of an instant as that instant, and a whole second with or without its
zero fraction alike. -/
structure ReadsInstants (env : WireEnv) : Prop where
  canonical : ∀ t, parseDateTime (fmtRfc3339Canonical env t) = some t
  wholeSecond : ∀ stem t, parseDateTime (stem ++ ".000Z") = some t → parseDateTime (stem ++ "Z") = some t

/-- The members tell the content of the body. -/
structure Tells (members : List (String × Json)) (b : Body) : Prop where
  valid : Valid NumberValid (.obj members)
  text : Body.TextFrom members b
  instants : Body.InstantsFrom parseDateTime members b

variable {parseDateTime} {env : WireEnv} (hchrono : ReadsInstants parseDateTime env)
  {members : List (String × Json)} {b : Body}

include hchrono

theorem readInstant_wholeSecond (v w : Json) (hw : wholeSecond v = some w) (t : DateTime)
    (h : readInstant parseDateTime v = some t) : readInstant parseDateTime w = some t := by
  unfold wholeSecond at hw
  split at hw
  next s =>
    obtain ⟨stem, hstem, rfl⟩ := Option.map_eq_some_iff.mp hw
    refine hchrono.wholeSecond stem t ?_
    rw [← stripSuffix_eq _ _ _ hstem]
    exact h
  · cases hw

omit hchrono in
theorem valid_insertMember (key : String) (v : Json) (h : Valid NumberValid (.obj members))
    (hv : Valid NumberValid v) : Valid NumberValid (.obj (insertMember members key v)) := by
  rw [Valid, Json.validMembers_iff] at h ⊢
  refine ⟨nodup_insertMember _ _ _ h.1, fun m hm => ?_⟩
  rcases mem_insertMember _ _ _ m hm with rfl | hm
  · exact hv
  · exact h.2 m hm

omit hchrono in
theorem valid_wholeSecond (v w : Json) (hw : wholeSecond v = some w) : Valid NumberValid w := by
  unfold wholeSecond at hw
  split at hw
  · obtain ⟨stem, -, rfl⟩ := Option.map_eq_some_iff.mp hw
    exact valid_str _
  · cases hw

omit hchrono in
theorem Tells.set (h : Tells parseDateTime members b) (key : String) (v : Json)
    (hkey : key ∈ Body.names) (hother : key ∉ Body.textNames) (hv : Valid NumberValid v)
    (hinstants : Body.InstantsFrom parseDateTime (insertMember members key v) b) :
    Tells parseDateTime (insertMember members key v) b := by
  refine ⟨valid_insertMember key v h.valid hv, h.text.congr ?_ (removeKeys_insertMember _ _ _ _ hkey),
    hinstants⟩
  intro k hk
  rw [lookup_insertMember, if_neg]
  rintro rfl
  exact hother hk

theorem Tells.respell_expiresAt (h : Tells parseDateTime members b) (top w : Json)
    (htop : members.lookup "expires_at" = some top) (hw : wholeSecond top = some w) :
    Tells parseDateTime (insertMember members "expires_at" w) b := by
  refine h.set _ w (by decide) (by decide) (valid_wholeSecond top w hw) ⟨?_, ?_⟩
  · have hexpires := h.instants.expiresAt
    obtain ⟨hnull, -⟩ | ⟨v, t, hv, -, ht, hsome⟩ := optionField_cases "expires_at" _ hexpires
    · rw [htop] at hnull
      unfold wholeSecond at hw
      split at hw
      · simp at hnull
      · cases hw
    · obtain rfl := Option.some.inj (htop.symm.trans hv)
      refine hsome ▸ optionField_of_lookup (fun _ => w) (some t) ?_ ?_ ?_
      · rw [lookup_insertMember, if_pos rfl]
        rfl
      · rintro _ ⟨⟩
        exact readInstant_wholeSecond hchrono top w hw t ht
      · rintro _ - rfl
        unfold wholeSecond at hw
        split at hw
        · obtain ⟨_, -, heq⟩ := Option.map_eq_some_iff.mp hw
          cases heq
        · cases hw
  · rw [optionField, lookup_insertMember, if_neg (by decide)]
    exact h.instants.dataPeriod

theorem dataPeriod_respelled (inner : List (String × Json)) (key : String) (hkey : key ∈ ["start", "end"])
    (v w : Json) (hv : inner.lookup key = some v) (hw : wholeSecond v = some w) (p : DataPeriod)
    (h : DataPeriod.read parseDateTime (.obj inner) = some p) :
    DataPeriod.read parseDateTime (.obj (insertMember inner key w)) = some p := by
  obtain ⟨members, hclosed, h⟩ := Option.bind_eq_some_iff.mp h
  obtain ⟨start, hstart, h⟩ := Option.bind_eq_some_iff.mp h
  obtain ⟨stop, hstop, h⟩ := Option.bind_eq_some_iff.mp h
  obtain rfl := Option.some.inj h
  rw [Json.closedMembers] at hclosed
  split_ifs at hclosed with hall
  obtain rfl := Option.some.inj hclosed
  have hinstant (k : String) (t : DateTime)
      (ht : requiredField inner k (readInstant parseDateTime) = some t) :
      requiredField (insertMember inner key w) k (readInstant parseDateTime) = some t := by
    rw [requiredField, lookup_insertMember]
    split_ifs with hk
    · rw [requiredField, hk, hv] at ht
      exact readInstant_wholeSecond hchrono v w hw t ht
    · exact ht
  have hclosed : (Json.obj (insertMember inner key w)).closedMembers ["start", "end"] =
      some (insertMember inner key w) := by
    rw [Json.closedMembers, if_pos]
    rw [List.all_eq_true] at hall ⊢
    intro m hm
    rcases mem_insertMember _ _ _ m hm with rfl | hm
    · exact decide_eq_true hkey
    · exact hall m hm
  refine Option.bind_eq_some_iff.mpr ⟨_, hclosed, ?_⟩
  refine Option.bind_eq_some_iff.mpr ⟨start, hinstant "start" start hstart, ?_⟩
  exact Option.bind_eq_some_iff.mpr ⟨stop, hinstant "end" stop hstop, rfl⟩

theorem Tells.respell_dataPeriod (h : Tells parseDateTime members b) (key : String)
    (hkey : key ∈ ["start", "end"]) (inner : List (String × Json)) (v w : Json)
    (htop : members.lookup "data_period" = some (.obj inner)) (hv : inner.lookup key = some v)
    (hw : wholeSecond v = some w) :
    Tells parseDateTime (insertMember members "data_period" (.obj (insertMember inner key w))) b := by
  have hinner : Valid NumberValid (.obj inner) := by
    have hvalid := h.valid
    rw [Valid, Json.validMembers_iff] at hvalid
    exact valid_of_lookup members hvalid.2 _ _ htop
  refine h.set _ _ (by decide) (by decide)
    (valid_insertMember key w hinner (valid_wholeSecond v w hw)) ⟨?_, ?_⟩
  · rw [optionField, lookup_insertMember, if_neg (by decide)]
    exact h.instants.expiresAt
  · obtain ⟨hnull, -⟩ | ⟨u, p, hu, -, hp, hsome⟩ := optionField_cases "data_period" _ h.instants.dataPeriod
    · rw [htop] at hnull
      simp at hnull
    · obtain rfl := Option.some.inj (htop.symm.trans hu)
      refine hsome ▸ optionField_of_lookup (fun _ => .obj (insertMember inner key w)) (some p) ?_ ?_ (by simp)
      · rw [lookup_insertMember, if_pos rfl]
        rfl
      · rintro _ ⟨⟩
        exact dataPeriod_respelled hchrono inner key hkey v w hv hw p hp

theorem Tells.respelled (h : Tells parseDateTime members b) (path : String × Option String)
    (hpath : path ∈ producerTimestampPaths) (v : Json) (hv : respellAt path (.obj members) = some v) :
    ∃ members', v = .obj members' ∧ Tells parseDateTime members' b := by
  obtain ⟨top, htop, hv⟩ := Option.bind_eq_some_iff.mp hv
  rw [Json.get, Json.asObject, Option.bind_some] at htop
  have hnested (key : String) (hkey : key ∈ ["start", "end"]) (htop : members.lookup "data_period" = some top)
      (hv : (top.get key).bind (fun u => (wholeSecond u).bind (fun w =>
        some (setMember (.obj members) "data_period" (setMember top key w)))) = some v) :
      ∃ members', v = .obj members' ∧ Tells parseDateTime members' b := by
    obtain ⟨u, hu, hv⟩ := Option.bind_eq_some_iff.mp hv
    obtain ⟨w, hw, hv⟩ := Option.bind_eq_some_iff.mp hv
    obtain rfl := Option.some.inj hv
    obtain ⟨inner, hinner, hlookup⟩ := Option.bind_eq_some_iff.mp hu
    rw [Json.asObject_eq_some_iff] at hinner
    subst hinner
    exact ⟨_, rfl, h.respell_dataPeriod hchrono key hkey inner u w htop hlookup hw⟩
  simp only [producerTimestampPaths, List.mem_cons, List.not_mem_nil, or_false] at hpath
  rcases hpath with rfl | rfl | rfl
  · obtain ⟨w, hw, hv⟩ := Option.bind_eq_some_iff.mp hv
    obtain rfl := Option.some.inj hv
    exact ⟨_, rfl, h.respell_expiresAt hchrono top w htop hw⟩
  · exact hnested "start" (by decide) htop hv
  · exact hnested "end" (by decide) htop hv

theorem Tells.legacy (h : Tells parseDateTime members b) (v : Json)
    (hv : legacyRendering (.obj members) = some v) :
    ∃ members', v = .obj members' ∧ Tells parseDateTime members' b := by
  have hfold (paths : List (String × Option String)) (hpaths : ∀ p ∈ paths, p ∈ producerTimestampPaths)
      (out : Json × Bool) (hout : ∃ ms, out.1 = .obj ms ∧ Tells parseDateTime ms b) :
      ∃ ms, (paths.foldl respell out).1 = .obj ms ∧ Tells parseDateTime ms b := by
    induction paths generalizing out with
    | nil => exact hout
    | cons path paths ih =>
      rw [List.forall_mem_cons] at hpaths
      refine ih hpaths.2 (respell out path) ?_
      obtain ⟨ms, hms, htells⟩ := hout
      rw [respell]
      cases hstep : respellAt path out.1 with
      | none => exact ⟨ms, hms, htells⟩
      | some u =>
        rw [hms] at hstep
        exact htells.respelled hchrono path hpaths.1 u hstep
  obtain ⟨ms, hms, htells⟩ := hfold producerTimestampPaths (fun _ hp => hp) (.obj members, false) ⟨_, rfl, h⟩
  obtain ⟨-, hv⟩ := Option.ite_none_right_eq_some.mp hv
  exact ⟨ms, (Option.some.inj hv).symm.trans hms, htells⟩

end Respelled

section Contexts

/-- The JSON values of the context are such as serde holds, and no extension takes the name of a typed
field. -/
structure WellFormed (ctx : FullContext) : Prop where
  rawBody : ∀ raw ∈ ctx.rawBody, Valid NumberValid raw
  body : ctx.body.WellFormed

variable (env : WireEnv)

/-- The values whose hash `verifyContextHash` compares. -/
inductive Hashed (ctx : FullContext) : Json → Prop where
  | raw (raw : Json) (h : ctx.rawBody = some raw) (hdescribes : rawDescribesBody env raw ctx.body = true) :
    Hashed ctx raw
  | typed : Hashed ctx (ctx.body.toValue env)
  | legacy (v : Json) (h : legacyRendering (ctx.body.toValue env) = some v) : Hashed ctx v

theorem WellFormed.of_read (parseDateTime : String → Option DateTime)
    (hread : ∀ v b, env.bodyDeserialize v = .ok b → Body.read parseDateTime v = some b) (codec : StateCodec)
    (v : Json) (hv : Valid NumberValid v) (ctx : FullContext)
    (h : FullContext.read env.toEnv codec v = some ctx) :
    WellFormed ctx := by
  obtain ⟨members, hmembers, h⟩ := Option.bind_eq_some_iff.mp h
  obtain ⟨raw, hraw, h⟩ := Option.bind_eq_some_iff.mp h
  obtain ⟨state, -, h⟩ := Option.bind_eq_some_iff.mp h
  obtain ⟨body, hbody, h⟩ := Option.bind_eq_some_iff.mp h
  obtain rfl := Option.some.inj h
  rw [Json.asObject_eq_some_iff] at hmembers
  subst hmembers
  rw [Valid, Json.validMembers_iff] at hv
  have hvalid := valid_of_lookup members hv.2 "body" raw hraw
  refine ⟨?_, Body.wellFormed_of_read parseDateTime raw hvalid body (hread raw body ?_)⟩
  · rintro _ ⟨⟩
    exact hvalid
  · cases hb : env.bodyDeserialize raw with
    | error e =>
      rw [hb] at hbody
      cases hbody
    | ok b =>
      rw [hb] at hbody
      rw [Option.some.inj hbody]

def hashPreimage (v : Json) : List (String × Json) := removeKeys contentHashExclude (v.asObject.getD [])

theorem verifyTypedContentHash_ok (value : Json) (expected : ContentHash)
    (h : verifyTypedContentHash env.toEnv value expected = .ok ()) :
    computeContentHash env.toEnv value = .ok expected ∨
      ∃ legacy, legacyRendering value = some legacy ∧ computeContentHash env.toEnv legacy = .ok expected := by
  unfold verifyTypedContentHash at h
  split at h
  · split at h
    next legacy hlegacy =>
      split_ifs at h with hok
      refine .inr ⟨legacy, hlegacy, ?_⟩
      rw [← verifyContentHash_ok_iff]
      exact (Foundation.Entries.ok_of_isOk _ hok).choose_spec
    · cases h
  · exact .inl ((verifyContentHash_ok_iff ..).mp h)

theorem verifyContextHash_ok (ctx : FullContext) (h : verifyContextHash env ctx = .ok ()) :
    ∃ v, Hashed env ctx v ∧ computeContentHash env.toEnv v = .ok ctx.body.contentHash := by
  have htyped (h : verifyTypedBodyHash env ctx.body = .ok ()) :
      ∃ v, Hashed env ctx v ∧ computeContentHash env.toEnv v = .ok ctx.body.contentHash := by
    obtain hok | ⟨legacy, hlegacy, hok⟩ := verifyTypedContentHash_ok env _ _ h
    · exact ⟨_, .typed, hok⟩
    · exact ⟨legacy, .legacy legacy hlegacy, hok⟩
  unfold verifyContextHash at h
  split at h
  next raw hraw =>
    rw [verifyRawBodyHash] at h
    split_ifs at h with hdescribes
    · exact ⟨raw, .raw raw hraw hdescribes, (verifyContentHash_ok_iff ..).mp h⟩
    · exact htyped h
  · exact htyped h

variable {env} {parseDateTime : String → Option DateTime} (fmt : FloatFormat)

theorem Body.tells (hchrono : ReadsInstants parseDateTime env) (b : Body) (h : b.WellFormed) :
    Tells parseDateTime (b.members env) b :=
  ⟨b.valid_toValue env h, Body.textFrom_members env h,
    Body.instantsFrom_members parseDateTime env hchrono.canonical h⟩

/-- What is hashed tells a body that differs from the typed one in nothing its hash tells. -/
theorem Hashed.tells (hread : ∀ v b, env.bodyDeserialize v = .ok b → Body.read parseDateTime v = some b)
    (hchrono : ReadsInstants parseDateTime env) (ctx : FullContext) (hctx : WellFormed ctx) (v : Json)
    (h : Hashed env ctx v) : ∃ members c, v = .obj members ∧ Tells parseDateTime members c ∧
      c.plain.producerContent fmt = ctx.body.plain.producerContent fmt := by
  have htyped := Body.tells hchrono ctx.body hctx.body
  cases h with
  | raw raw hraw hdescribes =>
    unfold rawDescribesBody at hdescribes
    split at hdescribes
    · cases hdescribes
    next c hc =>
      have hvalid := hctx.rawBody v hraw
      have hreads := hread v c hc
      obtain ⟨members, hobj, hfrom⟩ := Body.readFrom_of_read parseDateTime v c hreads
      rw [Json.asObject_eq_some_iff] at hobj
      subst hobj
      have hreparsed := Body.tells hchrono c (Body.wellFormed_of_read parseDateTime _ hvalid c hreads)
      have hsame : JcsSame fmt (.obj (c.members env)) (.obj (ctx.body.members env)) :=
        ⟨hreparsed.valid, htyped.valid, Json.Same.mono (Jcs.sameNumber_of_numberEq fmt) _ _
          ((Json.valueEq_iff_same _ _).mp hdescribes)⟩
      exact ⟨members, c, rfl, ⟨hvalid, hfrom.text, ⟨hfrom.expiresAt, hfrom.dataPeriod⟩⟩,
        Body.plain_eq_of_same parseDateTime hsame hreparsed.text hreparsed.instants htyped.text
        htyped.instants⟩
  | typed => exact ⟨_, ctx.body, rfl, htyped, rfl⟩
  | legacy v hlegacy =>
    obtain ⟨members, rfl, htells⟩ := htyped.legacy hchrono v hlegacy
    exact ⟨members, ctx.body, rfl, htells, rfl⟩

theorem contentHashExclude_subset : contentHashExclude ⊆ Body.names := by decide

theorem Tells.preimage {members : List (String × Json)} {b : Body} (h : Tells parseDateTime members b) :
    Tells parseDateTime (removeKeys contentHashExclude members) b := by
  have hlookup (k : String) (hk : k ∉ contentHashExclude) :
      (removeKeys contentHashExclude members).lookup k = members.lookup k := lookup_removeKeys _ k hk
  refine ⟨valid_removeKeys _ _ h.valid, h.text.congr ?_ ?_, h.instants.congr _ (hlookup _ (by decide))
    (hlookup _ (by decide))⟩
  · intro k hk
    refine hlookup k ?_
    revert k
    decide
  · rw [removeKeys, removeKeys, removeKeys, List.filter_filter]
    apply List.filter_congr
    intro m _
    by_cases hm : m.1 ∈ Body.names
    · simp [hm]
    · have hout : m.1 ∉ contentHashExclude := fun hin => hm (contentHashExclude_subset hin)
      simp [hm, hout]

theorem plain_eq_of_verified (hjcs : env.canonicalize = tryCanonicalizeValue fmt)
    (hread : ∀ v b, env.bodyDeserialize v = .ok b → Body.read parseDateTime v = some b)
    (hchrono : ReadsInstants parseDateTime env) (ctx ctx' : FullContext) (hctx : WellFormed ctx)
    (hctx' : WellFormed ctx')
    (hsha : ∀ v w, Hashed env ctx v → Hashed env ctx' w →
      NoCollision env.toEnv (hashPreimage v) (hashPreimage w))
    (hok : verifyContextHash env ctx = .ok ()) (hok' : verifyContextHash env ctx' = .ok ())
    (hhash : ctx.body.contentHash = ctx'.body.contentHash) :
    ctx.body.plain.producerContent fmt = ctx'.body.plain.producerContent fmt := by
  obtain ⟨v, hv, hcompute⟩ := verifyContextHash_ok env ctx hok
  obtain ⟨w, hw, hcompute'⟩ := verifyContextHash_ok env ctx' hok'
  have hcollision := hsha v w hv hw
  obtain ⟨as, c, rfl, htells, hc⟩ := hv.tells fmt hread hchrono ctx hctx
  obtain ⟨bs, c', rfl, htells', hc'⟩ := hw.tells fmt hread hchrono ctx' hctx'
  rw [hhash] at hcompute
  have has := htells.preimage
  have hbs := htells'.preimage
  have hsame := same_of_hashOfMembers env.toEnv fmt hjcs _ _ has.valid hbs.valid hcollision _
    hcompute hcompute'
  rw [← hc, ← hc']
  exact Body.plain_eq_of_same parseDateTime ⟨has.valid, hbs.valid, hsame⟩ has.text has.instants
    hbs.text hbs.instants

end Contexts

section Shadows

/-- Whether a custom type has the name of a standard one. Only a typed value can. -/
def shadowsStandard : ContextType → Bool
  | .custom name => name ∈ ["data_snapshot", "analysis", "prediction", "alert", "key-revocation"]
  | _ => false

theorem contextType_eq_iff (t t' : ContextType) (h : t.wire = t'.wire) :
    t = t' ↔ shadowsStandard t = shadowsStandard t' := by
  cases t <;> cases t' <;> simp_all [ContextType.wire, shadowsStandard]

theorem metadata_eq_iff (fmt : FloatFormat) (x y : Option Json)
    (h : (x.filter (· ≠ .null)).map (Jcs.render fmt) = (y.filter (· ≠ .null)).map (Jcs.render fmt)) :
    x.map (Jcs.render fmt) = y.map (Jcs.render fmt) ↔ (x = some .null ↔ y = some .null) := by
  have hkept (v : Json) (hv : v ≠ .null) : (some v).filter (· ≠ .null) = some v := by
    rw [Option.filter_some, if_pos (decide_eq_true hv)]
  have hnull : (some Json.null).filter (· ≠ .null) = none := rfl
  have hplain (z : Option Json) (hz : z ≠ some .null) : z.filter (· ≠ .null) = z := by
    cases z with
    | none => rfl
    | some v => exact hkept v (fun hv => hz (hv ▸ rfl))
  by_cases hx : x = some .null
  · by_cases hy : y = some .null
    · simp [hx, hy]
    · rw [hplain y hy, hx, hnull] at h
      rw [← h, hx]
      simp [hy]
  · by_cases hy : y = some .null
    · rw [hplain x hx, hy, hnull] at h
      rw [h, hy]
      simp [hx]
    · rw [hplain x hx, hplain y hy] at h
      simp [h, hx, hy]

end Shadows

/-- Two contexts that verify under one hash agree in every producer-controlled field exactly where both or
neither has a custom type of a standard name, and both or neither has `null` for its metadata. -/
theorem content_hash_binds_iff (env : WireEnv) (fmt : FloatFormat)
    (hjcs : env.canonicalize = tryCanonicalizeValue fmt) (parseDateTime : String → Option DateTime)
    (hread : ∀ v b, env.bodyDeserialize v = .ok b → Body.read parseDateTime v = some b)
    (hchrono : ReadsInstants parseDateTime env) (ctx ctx' : FullContext) (hctx : WellFormed ctx)
    (hctx' : WellFormed ctx')
    (hsha : ∀ v w, Hashed env ctx v → Hashed env ctx' w →
      NoCollision env.toEnv (hashPreimage v) (hashPreimage w))
    (hok : verifyContextHash env ctx = .ok ()) (hok' : verifyContextHash env ctx' = .ok ())
    (hhash : ctx.body.contentHash = ctx'.body.contentHash) :
    ctx.body.producerContent fmt = ctx'.body.producerContent fmt ↔
      shadowsStandard ctx.body.contextType = shadowsStandard ctx'.body.contextType ∧
        (ctx.body.metadata = some .null ↔ ctx'.body.metadata = some .null) := by
  have hplain := plain_eq_of_verified fmt hjcs hread hchrono ctx ctx' hctx hctx' hsha hok hok' hhash
  simp only [Body.producerContent, Body.plain, ProducerContent.mk.injEq, ContextType.custom.injEq] at hplain ⊢
  obtain ⟨hversion, hsupersedes, hagent, hcontributors, htitle, htype, hrefs, hderived,
    hvisibility, haudience, hacdp, hdescription, hsummary, htags, hdomain, hexpires, hperiod, hmetadata,
    hschema, hanchors, hext⟩ := hplain
  rw [← contextType_eq_iff _ _ htype, ← metadata_eq_iff fmt _ _ hmetadata]
  constructor
  · rintro ⟨-, -, -, -, -, ht, -, -, -, -, -, -, -, -, -, -, -, hm, -, -, -⟩
    exact ⟨ht, hm⟩
  · rintro ⟨ht, hm⟩
    exact ⟨hversion, hsupersedes, hagent, hcontributors, htitle, ht, hrefs, hderived, hvisibility, haudience,
      hacdp, hdescription, hsummary, htags, hdomain, hexpires, hperiod, hm, hschema, hanchors, hext⟩

section Sample

def wholeText : String := "2026-01-01T00:00:00Z"

def parseWritten (raw : String) : Option DateTime :=
  if raw = wholeText then some stamp
  else if raw = stampText ∨ raw.toList.all (· = 'x') then parseSpelled raw
  else none

def wholeDigest : Merkle.Digest :=
  #v[147, 226, 186, 199, 223, 197, 89, 169, 136, 35, 136, 10, 74, 39, 211, 161, 219, 60, 44, 220, 35, 121, 68,
    34, 227, 23, 35, 195, 149, 207, 111, 205]

def stampDigest : Merkle.Digest :=
  #v[50, 39, 7, 124, 233, 128, 36, 218, 110, 155, 188, 12, 209, 179, 58, 172, 82, 187, 186, 100, 18, 197, 194,
    219, 131, 158, 164, 236, 155, 79, 33, 91]

def nullDigest : Merkle.Digest :=
  #v[30, 60, 112, 210, 85, 18, 216, 227, 147, 173, 99, 187, 187, 108, 163, 53, 183, 254, 215, 6,
    152, 225, 117, 66, 182, 10, 124, 50, 22, 57, 71, 245]

def wholeHash : ContentHash := "sha256:93e2bac7dfc559a98823880a4a27d3a1db3c2cdc23794422e31723c395cf6fcd"

def nullHash : ContentHash := "sha256:1e3c70d25512d8e393ad63bbbb6ca335b7fed70698e17542b60a7c32163947f5"

/-- What a revocation's content hash covers, its instant spelled as given. -/
def revokingContent (title expiresAt : String) (metadata : Option Json) : List (String × Json) :=
  [("version", .num (.posInt 1)), ("supersedes", .null), ("agent_id", .str "did:web:a.example"),
    ("contributors", .arr []), ("title", .str title), ("type", .str "key-revocation"), ("data_refs", .arr []),
    ("derived_from", .arr []), ("visibility", .str "public"), ("expires_at", .str expiresAt)] ++
  Json.optional "metadata" id metadata

def revokingSignature : Signature :=
  ⟨"ed25519", "did:web:a.example#k",
    "8vhXust4UiLYrxwaNL2wwQsDjN0K0pe1UfBDujM+zSFHe2lSmu771/yFQ4wxuSl0rt+EPPVG8hhgctA1Bo+2Bg=="⟩

def revokingMembers (title expiresAt : String) (contentHash : ContentHash) (metadata : Option Json) :
    List (String × Json) :=
  [("ctx_id", .str "acdp://r.example/11111111-1111-4111-8111-111111111111"), ("lineage_id", .str wholeHash),
    ("origin_registry", .str "r.example"), ("created_at", .str stampText), ("content_hash", .str contentHash),
    ("signature", revokingSignature.toValue)] ++ revokingContent title expiresAt metadata

def revoking (title : String) (contentHash : ContentHash) : Body where
  ctxId := "acdp://r.example/11111111-1111-4111-8111-111111111111"
  lineageId := wholeHash
  originRegistry := "r.example"
  createdAt := stamp
  contentHash := contentHash
  signature := revokingSignature
  version := 1
  supersedes := none
  agentId := "did:web:a.example"
  contributors := []
  title := title
  contextType := .keyRevocation
  dataRefs := []
  derivedFrom := []
  visibility := .public
  audience := none
  acdpVersion := none
  description := none
  summary := none
  tags := none
  domain := none
  expiresAt := some stamp
  dataPeriod := none
  metadata := none
  schemaUri := none
  anchors := none
  extensions := []

def oneFormat : FloatFormat := fun _ => Jcs.one

def jcsBytes (members : List (String × Json)) : List UInt8 :=
  utf8 (String.ofList (Jcs.render oneFormat (.obj members)))

def revokingSha256 (bytes : List UInt8) : Merkle.Digest :=
  if bytes = jcsBytes (revokingContent "T" wholeText none) then wholeDigest
  else if bytes = jcsBytes (revokingContent "T" stampText none) then stampDigest
  else nullDigest

def revokingEnv : WireEnv where
  toEnv := { plainEnv with
    sha256 := revokingSha256
    fmtRfc3339Ms := spell
    bodyDeserialize := fun v => parsed (Body.read parseWritten v) }
  toRfc3339AutoSi := spell
  toVecLen := fun _ => 0

def activeState : RegistryState := ⟨.active, none, none, []⟩

def activeStates : StateCodec where
  toValue := fun _ => .obj [("status", .str "active")]
  deserialize := fun v => if v = .obj [("status", .str "active")] then some activeState else none

def received (raw : Json) : Json := .obj [("body", raw), ("registry_state", activeStates.toValue activeState)]

def revokingContext (raw : Json) (body : Body) : FullContext where
  body := body
  registryState := activeState
  registryReceipt := none
  lineageHeadReceipt := none
  logInclusion := none
  extensions := []
  rawBody := some raw

theorem read_whole (title : String) (contentHash : ContentHash) :
    Body.read parseWritten (.obj (revokingMembers title wholeText contentHash none)) =
      some (revoking title contentHash) := by
  rfl

theorem read_null (title : String) (contentHash : ContentHash) :
    Body.read parseWritten (.obj (revokingMembers title stampText contentHash (some .null))) =
      some (revoking title contentHash) := by
  rfl

theorem toValue_revoking (title : String) (contentHash : ContentHash) :
    (revoking title contentHash).toValue revokingEnv =
      .obj (revokingMembers title stampText contentHash none) := by
  rfl

theorem legacyRendering_stamp (title : String) (contentHash : ContentHash) :
    legacyRendering (.obj (revokingMembers title stampText contentHash none)) =
      some (.obj (revokingMembers title wholeText contentHash none)) := by
  rfl

theorem removeKeys_revokingMembers (title expiresAt : String) (contentHash : ContentHash)
    (metadata : Option Json) : removeKeys contentHashExclude
    (revokingMembers title expiresAt contentHash metadata) = revokingContent title expiresAt metadata := by
  cases metadata <;> rfl

theorem read_received (raw : Json) (body : Body) (h : Body.read parseWritten raw = some body) :
    FullContext.read revokingEnv.toEnv activeStates (received raw) = some (revokingContext raw body) := by
  have hbody : (revokingEnv.bodyDeserialize raw).toOption = some body := by
    show (parsed (Body.read parseWritten raw)).toOption = some body
    rw [h]
    rfl
  have hnames : removeKeys FullContext.names
    [("body", raw), ("registry_state", activeStates.toValue activeState)] = [] := by
    rfl
  rw [FullContext.read, received, Json.asObject]
  simp only [Option.bind_eq_bind, Option.bind_some, List.lookup_cons_self, hnames]
  simp [List.lookup_cons, hbody, FullContext.valueField, activeStates, revokingContext]

theorem valid_revokingMembers (title expiresAt : String) (contentHash : ContentHash) (metadata : Option Json)
    (h : ∀ v ∈ metadata, Valid NumberValid v) :
    Valid NumberValid (.obj (revokingMembers title expiresAt contentHash metadata)) := by
  cases metadata with
  | none =>
    simp [revokingMembers, revokingContent, revokingSignature, Signature.toValue, Json.optional, Valid,
      Json.ValidMembers, Json.ValidItems, Jcs.NumberValid]
  | some v =>
    simpa [revokingMembers, revokingContent, revokingSignature, Signature.toValue, Json.optional, Valid,
      Json.ValidMembers, Json.ValidItems, Jcs.NumberValid] using h v rfl

theorem revoking_wellFormed (title : String) (contentHash : ContentHash) :
    (revoking title contentHash).WellFormed := by
  constructor <;> simp [revoking, Valid, Json.ValidMembers]

theorem computeContentHash_revoking (title expiresAt : String) (contentHash : ContentHash)
    (metadata : Option Json) (hdepth : (Json.obj (revokingContent title expiresAt metadata)).depth ≤ 256) :
    computeContentHash revokingEnv.toEnv (.obj (revokingMembers title expiresAt contentHash metadata)) =
      .ok (encodeSha256Hex (revokingSha256 (jcsBytes (revokingContent title expiresAt metadata)))) := by
  have hbytes : revokingEnv.canonicalize (.obj (removeKeys contentHashExclude
      (revokingMembers title expiresAt contentHash metadata))) =
      .ok (jcsBytes (revokingContent title expiresAt metadata)) := by
    rw [removeKeys_revokingMembers]
    exact Jcs.tryCanonicalizeValue_ok oneFormat _ hdepth
  have hsha : revokingEnv.sha256 = revokingSha256 := by
    rfl
  rw [computeContentHash_eq revokingEnv.toEnv _ _ hbytes, hsha]

theorem revokingEnv_readsInstants : ReadsInstants parseWritten revokingEnv where
  canonical := by
    intro t
    have hspell : parseWritten (spell t) = some t := by
      by_cases ht : t = stamp
      · rw [ht]
        decide +kernel
      · have hchars : (spell t).toList.all (· = 'x') = true := by
          rw [spell, if_neg ht, String.toList_ofList]
          simp
        have hother : spell t ≠ wholeText := by
          rintro heq
          rw [heq] at hchars
          revert hchars
          decide +kernel
        rw [parseWritten, if_neg hother, if_pos (.inr hchars), parseSpelled_spell]
    rw [fmtRfc3339Canonical]
    split_ifs <;> exact hspell
  wholeSecond := by
    intro stem t h
    have hsuffix (whole : String) (heq : stem ++ ".000Z" = whole) : ".000Z".toList <:+ whole.toList := by
      rw [← heq, String.toList_append]
      exact List.suffix_append _ _
    unfold parseWritten at h
    split_ifs at h with hwhole hknown
    · exact absurd (hsuffix _ hwhole) (by decide +kernel)
    · rcases hknown with hstamp | hchars
      · have hstem : stem = "2026-01-01T00:00:00" := by
          have hchars := congrArg String.toList hstamp
          rw [String.toList_append, show stampText.toList = "2026-01-01T00:00:00".toList ++ ".000Z".toList by
            decide +kernel] at hchars
          exact String.toList_injective (List.append_cancel_right hchars)
        rw [hstamp, parseSpelled, if_pos rfl] at h
        rw [hstem, parseWritten, if_pos (by decide +kernel), ← h]
      · rw [List.all_eq_true] at hchars
        have hdot := hchars '.' (by simp)
        cases of_decide_eq_true hdot

theorem valid_revokingContent (title expiresAt : String) (metadata : Option Json)
    (h : ∀ v ∈ metadata, Valid NumberValid v) : Valid NumberValid
    (.obj (revokingContent title expiresAt metadata)) := by
  rw [← removeKeys_revokingMembers title expiresAt "" metadata]
  exact valid_removeKeys _ _ (valid_revokingMembers title expiresAt "" metadata h)

theorem jcsBytes_ne (as bs : List (String × Json)) (ha : Valid NumberValid (.obj as))
    (hb : Valid NumberValid (.obj bs)) (k : String)
    (hk : ¬ Option.Rel (JcsSame oneFormat) (as.lookup k) (bs.lookup k)) : jcsBytes as ≠ jcsBytes bs := by
  intro heq
  rw [jcsBytes, jcsBytes, Jcs.utf8_inj, String.ofList_inj, Jcs.render_eq_iff oneFormat _ _ ha hb] at heq
  exact hk (SameValid.lookup as bs ⟨ha, hb, heq⟩ k)

theorem depth_revokingContent (expiresAt : String) (metadata : Option Json)
    (h : metadata = none ∨ metadata = some .null) :
    (Json.obj (revokingContent "T" expiresAt metadata)).depth ≤ 256 := by
  have hdepth : (Json.obj (revokingContent "T" expiresAt metadata)).depth = 1 := by
    rcases h with rfl | rfl <;> rfl
  omega

theorem valid_none : ∀ v ∈ (none : Option Json), Valid NumberValid v := fun _ hv => by cases hv

theorem valid_null : ∀ v ∈ some Json.null, Valid NumberValid v := by
  rintro _ ⟨⟩
  rw [Valid]
  trivial

theorem sha256_whole : revokingSha256 (jcsBytes (revokingContent "T" wholeText none)) = wholeDigest :=
  if_pos rfl

theorem whole_ne_stamp : jcsBytes (revokingContent "T" stampText none) ≠ jcsBytes
    (revokingContent "T" wholeText none) := by
  refine jcsBytes_ne _ _ (valid_revokingContent _ _ _ valid_none) (valid_revokingContent _ _ _ valid_none)
    "expires_at" ?_
  rintro (hsame | _)
  have htext := SameValid.asStr hsame
  simp only [Json.asStr, Option.some.injEq] at htext
  revert htext
  decide +kernel

theorem null_ne (expiresAt : String) : jcsBytes (revokingContent "T" stampText (some .null)) ≠ jcsBytes
    (revokingContent "T" expiresAt none) := by
  refine jcsBytes_ne _ _ (valid_revokingContent _ _ _ valid_null)
    (valid_revokingContent _ _ _ valid_none) "metadata" ?_
  rintro (_ | _)

theorem sha256_stamp : revokingSha256 (jcsBytes (revokingContent "T" stampText none)) = stampDigest := by
  rw [revokingSha256, if_neg whole_ne_stamp, if_pos rfl]

theorem sha256_null : revokingSha256 (jcsBytes (revokingContent "T" stampText (some .null))) =
    nullDigest := by
  rw [revokingSha256, if_neg (null_ne _), if_neg (null_ne _)]

theorem wholeHash_eq : encodeSha256Hex wholeDigest = wholeHash := by decide +kernel

theorem nullHash_eq : encodeSha256Hex nullDigest = nullHash := by decide +kernel

theorem compute_whole (contentHash : ContentHash) :
    computeContentHash revokingEnv.toEnv (.obj (revokingMembers "T" wholeText contentHash none)) =
      .ok wholeHash := by
  rw [computeContentHash_revoking _ _ _ _ (depth_revokingContent _ _ (.inl rfl)), sha256_whole, wholeHash_eq]

theorem compute_stamp (contentHash : ContentHash) :
    computeContentHash revokingEnv.toEnv (.obj (revokingMembers "T" stampText contentHash none)) =
      .ok (encodeSha256Hex stampDigest) := by
  rw [computeContentHash_revoking _ _ _ _ (depth_revokingContent _ _ (.inl rfl)), sha256_stamp]

theorem compute_null (contentHash : ContentHash) :
    computeContentHash revokingEnv.toEnv (.obj (revokingMembers "T" stampText contentHash (some .null))) =
      .ok nullHash := by
  rw [computeContentHash_revoking _ _ _ _ (depth_revokingContent _ _ (.inr rfl)), sha256_null, nullHash_eq]

theorem stampHash_ne : encodeSha256Hex stampDigest ≠ wholeHash := by
  rw [← wholeHash_eq]
  exact encodeSha256Hex_injective.ne (by decide)

theorem bodyDeserialize_of_read (raw : Json) (body : Body) (h : Body.read parseWritten raw = some body) :
    revokingEnv.bodyDeserialize raw = .ok body := (parsed_ok _ body).mpr h

theorem verifies_described (raw : Json) (body reparsed : Body)
    (hread : Body.read parseWritten raw = some reparsed) (hreparsed : reparsed.WellFormed)
    (hvalue : body.toValue revokingEnv = reparsed.toValue revokingEnv)
    (h : computeContentHash revokingEnv.toEnv raw = .ok body.contentHash) :
    verifyContextHash revokingEnv (revokingContext raw body) = .ok () := by
  have hdescribes : rawDescribesBody revokingEnv raw body = true := by
    rw [rawDescribesBody, bodyDeserialize_of_read raw reparsed hread, hvalue]
    refine (Json.valueEq_iff_same _ _).mpr ?_
    exact Json.same_refl NumberValid _ Json.numberEq_refl _ (reparsed.valid_toValue revokingEnv hreparsed)
  rw [verifyContextHash, revokingContext]
  show verifyRawBodyHash revokingEnv raw body = .ok ()
  rw [verifyRawBodyHash, if_pos hdescribes, (verifyContentHash_ok_iff ..).mpr h]

theorem not_rawDescribesBody (raw : Json) (body reparsed : Body) (as bs : List (String × Json))
    (hread : Body.read parseWritten raw = some reparsed) (has : reparsed.toValue revokingEnv = .obj as)
    (hbs : body.toValue revokingEnv = .obj bs) (hreparsed : Valid NumberValid (.obj as))
    (hbody : Valid NumberValid (.obj bs)) (k : String)
    (hk : ¬ Option.Rel (SameValid NumberValid (fun m n => Json.numberEq m n = true)) (as.lookup k)
      (bs.lookup k)) :
    ¬ rawDescribesBody revokingEnv raw body = true := by
  rw [rawDescribesBody, bodyDeserialize_of_read raw reparsed hread]
  show ¬ Json.valueEq (reparsed.toValue revokingEnv) (body.toValue revokingEnv) = true
  rw [has, hbs, Json.valueEq_iff_same]
  intro hsame
  exact hk (SameValid.lookup as bs ⟨hreparsed, hbody, hsame⟩ k)

theorem verifyContextHash_undescribed (raw : Json) (body : Body)
    (h : ¬ rawDescribesBody revokingEnv raw body = true) :
    verifyContextHash revokingEnv (revokingContext raw body) = verifyTypedBodyHash revokingEnv body := by
  rw [verifyContextHash, revokingContext]
  show verifyRawBodyHash revokingEnv raw body = _
  rw [verifyRawBodyHash, if_neg h]

def plainContext : FullContext :=
  revokingContext (.obj (revokingMembers "T" wholeText wholeHash none)) (revoking "T" wholeHash)

/-- Read under another title, which the caller has changed since. -/
def retitledContext : FullContext :=
  revokingContext (.obj (revokingMembers "U" wholeText wholeHash none)) (revoking "T" wholeHash)

def renamedContext : FullContext :=
  { plainContext with body := { plainContext.body with contextType := .custom "key-revocation" } }

def nullContext : FullContext :=
  revokingContext (.obj (revokingMembers "T" stampText nullHash (some .null))) (revoking "T" nullHash)

def filledContext : FullContext :=
    { nullContext with body := { nullContext.body with metadata := some .null } }

theorem plainContext_verifies : verifyContextHash revokingEnv plainContext = .ok () :=
  verifies_described _ _ _ (read_whole "T" wholeHash) (revoking_wellFormed _ _) rfl (compute_whole _)

theorem renamedContext_verifies : verifyContextHash revokingEnv renamedContext = .ok () :=
  verifies_described _ _ _ (read_whole "T" wholeHash) (revoking_wellFormed _ _) rfl (compute_whole _)

theorem nullContext_verifies : verifyContextHash revokingEnv nullContext = .ok () :=
  verifies_described _ _ _ (read_null "T" nullHash) (revoking_wellFormed _ _) rfl (compute_null _)

theorem filledContext_undescribed : ¬ rawDescribesBody revokingEnv
    (.obj (revokingMembers "T" stampText nullHash (some .null))) filledContext.body = true := by
  refine not_rawDescribesBody _ _ _ _ (revokingMembers "T" stampText nullHash (some .null))
    (read_null "T" nullHash) (toValue_revoking _ _) rfl (valid_revokingMembers _ _ _ _ valid_none)
    (valid_revokingMembers _ _ _ _ valid_null)
    "metadata" ?_
  rintro (_ | _)

theorem filledContext_verifies : verifyContextHash revokingEnv filledContext = .ok () :=
  (verifyContextHash_undescribed _ _ filledContext_undescribed).trans
    (verifyTypedContentHash_of_canonical revokingEnv.toEnv _ _ (compute_null nullHash))

theorem retitledContext_undescribed : ¬ rawDescribesBody revokingEnv
    (.obj (revokingMembers "U" wholeText wholeHash none)) (revoking "T" wholeHash) = true := by
  refine not_rawDescribesBody _ _ _ _ _ (read_whole "U" wholeHash) (toValue_revoking _ _)
    (toValue_revoking _ _) (valid_revokingMembers _ _ _ _ valid_none)
    (valid_revokingMembers _ _ _ _ valid_none) "title" ?_
  rintro (hsame | _)
  have htext := SameValid.asStr hsame
  simp [Json.asStr] at htext

theorem retitledContext_verifies : verifyContextHash revokingEnv retitledContext = .ok () := by
  refine (verifyContextHash_undescribed _ _ retitledContext_undescribed).trans ?_
  have hcanonical := verifyContentHash_mismatch revokingEnv.toEnv _ _ _ (compute_stamp wholeHash) stampHash_ne
  have hlegacy : verifyContentHash revokingEnv.toEnv (.obj (revokingMembers "T" wholeText wholeHash none))
      wholeHash = .ok () := (verifyContentHash_ok_iff ..).mpr (compute_whole _)
  show verifyTypedContentHash revokingEnv.toEnv ((revoking "T" wholeHash).toValue revokingEnv) wholeHash =
    .ok ()
  rw [toValue_revoking, verifyTypedContentHash, hcanonical]
  simp only [legacyRendering_stamp, hlegacy]
  rfl

theorem retyped_and_filled_verify :
    (FullContext.read revokingEnv.toEnv activeStates
          (received (.obj (revokingMembers "T" wholeText wholeHash none))) = some plainContext ∧
      verifyContextHash revokingEnv plainContext = .ok () ∧
      verifyContextHash revokingEnv renamedContext = .ok () ∧
      plainContext.body.contentHash = renamedContext.body.contentHash ∧
      plainContext.body.producerContent oneFormat ≠ renamedContext.body.producerContent oneFormat) ∧
    (FullContext.read revokingEnv.toEnv activeStates
          (received (.obj (revokingMembers "T" stampText nullHash (some .null)))) = some nullContext ∧
      verifyContextHash revokingEnv nullContext = .ok () ∧
      verifyContextHash revokingEnv filledContext = .ok () ∧
      nullContext.body.contentHash = filledContext.body.contentHash ∧
      nullContext.body.producerContent oneFormat ≠ filledContext.body.producerContent oneFormat) := by
  refine ⟨⟨read_received _ _ (read_whole "T" wholeHash), plainContext_verifies,
    renamedContext_verifies, rfl, ?_⟩, read_received _ _ (read_null "T" nullHash), nullContext_verifies,
    filledContext_verifies, rfl, ?_⟩
  · intro heq
    cases congrArg ProducerContent.contextType heq
  · intro heq
    cases congrArg ProducerContent.metadata heq

theorem hashPreimage_revoking (raw : Json) (body : Body)
    (hbody : body.toValue revokingEnv = .obj (revokingMembers "T" stampText wholeHash none))
    (hraw : rawDescribesBody revokingEnv raw body = true →
      raw = .obj (revokingMembers "T" wholeText wholeHash none))
    (v : Json) (h : Hashed revokingEnv (revokingContext raw body) v) :
    hashPreimage v = revokingContent "T" stampText none ∨
      hashPreimage v = revokingContent "T" wholeText none := by
  cases h with
  | raw r hr hdescribes =>
    obtain rfl := Option.some.inj hr
    rw [hraw hdescribes]
    exact .inr (removeKeys_revokingMembers _ _ _ _)
  | typed =>
    refine .inl ?_
    show hashPreimage (body.toValue revokingEnv) = _
    rw [hbody]
    exact removeKeys_revokingMembers _ _ _ _
  | legacy v hlegacy =>
    change legacyRendering (body.toValue revokingEnv) = some v at hlegacy
    rw [hbody, legacyRendering_stamp] at hlegacy
    obtain rfl := Option.some.inj hlegacy
    exact .inr (removeKeys_revokingMembers _ _ _ _)

theorem revoking_noCollision (as bs : List (String × Json))
    (has : as = revokingContent "T" stampText none ∨ as = revokingContent "T" wholeText none)
    (hbs : bs = revokingContent "T" stampText none ∨ bs = revokingContent "T" wholeText none) :
    NoCollision revokingEnv.toEnv as bs := by
  have hbytes (expiresAt : String) (bytes : List UInt8)
      (h : revokingEnv.canonicalize (.obj (revokingContent "T" expiresAt none)) = .ok bytes) :
      bytes = jcsBytes (revokingContent "T" expiresAt none) :=
    (Except.ok.inj ((Jcs.tryCanonicalizeValue_ok oneFormat _
      (depth_revokingContent _ _ (.inl rfl))).symm.trans h)).symm
  have hdigests : stampDigest ≠ wholeDigest := by decide
  intro bytes bytes' h h' hsha
  change revokingSha256 bytes = revokingSha256 bytes' at hsha
  rcases has with rfl | rfl <;> rcases hbs with rfl | rfl <;> rw [hbytes _ _ h, hbytes _ _ h'] at hsha ⊢
  · rw [sha256_stamp, sha256_whole] at hsha
    exact absurd hsha hdigests
  · rw [sha256_stamp, sha256_whole] at hsha
    exact absurd hsha.symm hdigests

theorem revokingContext_wellFormed (title : String) :
    WellFormed (revokingContext (.obj (revokingMembers title wholeText wholeHash none))
      (revoking title wholeHash)) := by
  refine WellFormed.of_read revokingEnv parseWritten (fun v b => (parsed_ok _ b).mp) activeStates _ ?_ _
    (read_received _ _ (read_whole title wholeHash))
  have hmembers := valid_revokingMembers title wholeText wholeHash none valid_none
  rw [Valid] at hmembers
  simpa [received, activeStates, Valid, Json.ValidMembers] using hmembers

theorem retitledContext_binds :
    verifyContextHash revokingEnv retitledContext = .ok () ∧
      plainContext.body.producerContent oneFormat = retitledContext.body.producerContent oneFormat ∧
      plainContext.body.producerContent oneFormat ≠ renamedContext.body.producerContent oneFormat := by
  have hread (v : Json) (b : Body) : revokingEnv.bodyDeserialize v = .ok b →
      Body.read parseWritten v = some b :=
    (parsed_ok _ b).mp
  have hplain := hashPreimage_revoking _ _ (toValue_revoking "T" wholeHash) (fun _ => rfl)
  have hretitled := hashPreimage_revoking _ _ (toValue_revoking "T" wholeHash)
    (fun h => absurd h retitledContext_undescribed)
  have hrenamed := hashPreimage_revoking _ renamedContext.body (toValue_revoking "T" wholeHash) (fun _ => rfl)
  have hformed := revokingContext_wellFormed "T"
  refine ⟨retitledContext_verifies, ?_, ?_⟩
  · refine (content_hash_binds_iff revokingEnv oneFormat rfl parseWritten hread
      revokingEnv_readsInstants plainContext retitledContext hformed
      ⟨(revokingContext_wellFormed "U").rawBody, hformed.body⟩ ?_
      plainContext_verifies retitledContext_verifies rfl).mpr ⟨rfl, Iff.rfl⟩
    exact fun v w hv hw => revoking_noCollision _ _ (hplain v hv) (hretitled w hw)
  · have hbinds :=
      content_hash_binds_iff revokingEnv oneFormat rfl parseWritten hread revokingEnv_readsInstants
        plainContext renamedContext hformed ⟨hformed.rawBody, ?_⟩
        (fun v w hv hw => revoking_noCollision _ _ (hplain v hv) (hrenamed w hw))
        plainContext_verifies renamedContext_verifies rfl
    · exact fun heq => absurd (hbinds.mp heq).1 (by decide)
    · constructor <;> simp [renamedContext, plainContext, revokingContext, revoking, Valid, Json.ValidMembers]

end Sample
end Acdp.Crypto
