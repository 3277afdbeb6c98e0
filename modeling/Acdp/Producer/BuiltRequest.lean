import Acdp.Crypto.Utf8
import Acdp.Foundation.Entries
import Acdp.Producer.Builder
import Acdp.Registry.Served
import Acdp.Types.DecodeRoundTrip

namespace Acdp.Producer

open Acdp.Types
open Acdp.Crypto
open Acdp.Validation
open Acdp.Foundation.Entries (bind_ok seq_ok_iff discard_ok_iff guard_ok_iff)

def canonicalPreimage (env : Env) (body : Json) : Except AcdpError (List UInt8 × ContentHash) :=
  match body.asObject with
  | none => .error (.invalidBody "expected a JSON object")
  | some members => do
    let canonical ← env.canonicalize (.obj (removeKeys contentHashExclude members))
    return (canonical, encodeSha256Hex (env.sha256 canonical))

section Setters

structure ClearExtensions (dataRefs : List DataRef) (anchors : Option (List AnchorEntry)) : Prop where
  dataRefs : ∀ d ∈ dataRefs, FreeExtensions DataRef.names d.extensions
  anchors : ∀ as ∈ anchors, ∀ a ∈ as, FreeExtensions AnchorEntry.names a.extensions

def Start.Clear : Start → Prop
  | .newVersionFrom previous => ClearExtensions previous.dataRefs previous.anchors
  | _ => True

def Setter.Clear : Setter → Prop
  | .dataRefs d => ClearExtensions d none
  | .anchors a => ClearExtensions [] (some a)
  | _ => True

def RequestBuilder.Clear (b : RequestBuilder) : Prop := ClearExtensions b.dataRefs b.anchors

theorem Start.builder_clear (start : Start) (h : start.Clear) : start.builder.Clear := by
  cases start with
  | newVersionFrom previous => exact h
  | _ =>
    exact ⟨by simp [Start.builder, RequestBuilder.new, RequestBuilder.supersede,
      RequestBuilder.supersedeBody], by simp [Start.builder, RequestBuilder.new, RequestBuilder.supersede,
      RequestBuilder.supersedeBody]⟩

theorem Setter.apply_clear (b : RequestBuilder) (setter : Setter) (hb : b.Clear) (h : setter.Clear) :
    (setter.apply b).Clear := by
  cases setter with
  | dataRefs d => exact ⟨h.dataRefs, hb.anchors⟩
  | anchors a => exact ⟨hb.dataRefs, h.anchors⟩
  | clearAnchors => exact ⟨hb.dataRefs, by simp [Setter.apply]⟩
  | _ => exact hb

theorem run_clear (setters : List Setter) (b : RequestBuilder) (hb : b.Clear) (h : ∀ s ∈ setters, s.Clear) :
    (setters.foldl Setter.apply b).Clear := by
  induction setters generalizing b with
  | nil => exact hb
  | cons s rest ih =>
    rw [List.forall_mem_cons] at h
    exact ih (s.apply b) (s.apply_clear b hb h.1) h.2

end Setters

section Build

variable (env : PublishEnv) (producer : Producer) (b : RequestBuilder)

theorem producerContent_eq (title : String) (contextType : ContextType) (version : UInt32)
    (contentHash : ContentHash) : removeKeys contentHashExclude
        ((b.request producer title contextType version contentHash).members env.toWireEnv) =
      b.producerContent env.toWireEnv producer title contextType version := by
  rw [PublishRequest.members, RequestBuilder.producerContent]
  simp only [removeKeys_append, removeKeys_optional, contentHashExclude, keyAttestationField]
  simp [removeKeys, RequestBuilder.request]

theorem producerContent_excluded (title : String) (contextType : ContextType) (version : UInt32) :
    removeKeys contentHashExclude (b.producerContent env.toWireEnv producer title contextType version) =
      b.producerContent env.toWireEnv producer title contextType version := by
  rw [← producerContent_eq env producer b title contextType version ""]
  rw [removeKeys, removeKeys, List.filter_filter]
  simp only [Bool.and_self]

theorem build_ok (req : PublishRequest) (h : b.build env producer = .ok req) :
    ∃ title contextType version contentHash,
      computeContentHash env.toEnv
        (.obj (b.producerContent env.toWireEnv producer title contextType version)) = .ok contentHash ∧
      req = b.request producer title contextType version contentHash ∧
      validatePublishRequest env req = .ok () := by
  unfold RequestBuilder.build at h
  split at h
  · cases h
  next title _ =>
  split at h
  · cases h
  next contextType _ =>
  obtain ⟨version, -, h⟩ := bind_ok _ _ _ h
  rw [guard_ok_iff] at h
  obtain ⟨-, h⟩ := h
  rw [guard_ok_iff] at h
  obtain ⟨-, h⟩ := h
  obtain ⟨contentHash, hhash, h⟩ := bind_ok _ _ _ h
  rw [seq_ok_iff] at h
  obtain ⟨hvalid, h⟩ := h
  obtain rfl := Except.ok.inj h
  exact ⟨title, contextType, version, contentHash, hhash, rfl, hvalid⟩

end Build

section Valid

variable (env : PublishEnv) (req : PublishRequest)

theorem isNamespaced_of_validate (name : String) (h : validateNamespacedContextType name = .ok ()) :
    isNamespacedContextType name = true := by
  unfold validateNamespacedContextType at h
  split at h
  · cases h
  next ns name' hsplit =>
  split at h
  · cases h
  next hns =>
  split at h
  · cases h
  next hname =>
  simp only [isNamed, isNamespaceChar, not_not, Bool.and_eq_true] at hns hname
  rw [isNamespacedContextType, hsplit]
  simp only [Bool.and_eq_true]
  exact ⟨⟨⟨hns.1.2, hns.2⟩, hname.1.2⟩, hname.2⟩

theorem readable_of_valid (h : validatePublishRequest env req = .ok ())
    (hclear : ClearExtensions req.dataRefs req.anchors) : req.Readable := by
  rw [validatePublishRequest] at h
  simp only [discard_ok_iff] at h
  obtain ⟨-, -, -, -, -, -, -, -, -, -, -, -, ⟨_, htype⟩, ⟨_, hmetadata⟩, -⟩ := h
  refine ⟨?_, ?_, hclear.dataRefs, hclear.anchors⟩
  · intro name hname
    rw [hname] at htype
    exact isNamespaced_of_validate name htype
  · intro hnull
    rw [hnull] at hmetadata
    cases hmetadata

end Valid

theorem canonicalPreimage_eq (env : Env) (members content : List (String × Json))
    (h : removeKeys contentHashExclude members = content) (contentHash : ContentHash)
    (hhash : hashOfMembers env content = .ok contentHash) :
    ∃ bytes, env.canonicalize (.obj content) = .ok bytes ∧
      canonicalPreimage env (.obj members) = .ok (bytes, contentHash) := by
  obtain ⟨bytes, hbytes, rfl⟩ := hashOfMembers_ok env content contentHash hhash
  refine ⟨bytes, hbytes, ?_⟩
  change (env.canonicalize (.obj (removeKeys contentHashExclude members)) >>= _) = _
  rw [h, hbytes]
  rfl

theorem built_request_signs_what_it_sends (env : PublishEnv) (parseDateTime : String → Option DateTime)
    (hserde : ∀ v r, PublishRequest.read parseDateTime v = some r → env.requestDeserialize v = .ok r)
    (hchrono : ∀ t, parseDateTime (fmtRfc3339Canonical env.toWireEnv t) = some t) (producer : Producer)
    (start : Start) (setters : List Setter) (hstart : start.Clear) (hsetters : ∀ s ∈ setters, s.Clear)
    (req : PublishRequest)
    (hbuild : (setters.foldl Setter.apply start.builder).build env producer = .ok req) :
    computeContentHash env.toEnv (req.toValue env.toWireEnv) = .ok req.contentHash ∧
    ∃ title contextType version content bytes,
      content = (setters.foldl Setter.apply start.builder).producerContent env.toWireEnv producer
        title contextType version ∧
      env.canonicalize (.obj content) = .ok bytes ∧
      removeKeys contentHashExclude (req.members env.toWireEnv) = content ∧
      canonicalPreimage env.toEnv (req.toValue env.toWireEnv) = .ok (bytes, req.contentHash) ∧
      ∃ req', env.requestDeserialize (req.toValue env.toWireEnv) = .ok req' ∧
        validatePublishRequest env req' = .ok () ∧
        canonicalPreimage env.toEnv (req'.toValue env.toWireEnv) = .ok (bytes, req.contentHash) ∧
        ∀ ctxId lineageId originRegistry now, ∃ body,
          body = Body.fromPublishRequest req' ctxId lineageId originRegistry now ∧
          removeKeys contentHashExclude (body.members env.toWireEnv) = content ∧
          canonicalPreimage env.toEnv (body.toValue env.toWireEnv) = .ok (bytes, req.contentHash) := by
  obtain ⟨title, contextType, version, contentHash, hhash, hreq, hvalid⟩ := build_ok env producer _ req hbuild
  have hclear := run_clear setters start.builder (start.builder_clear hstart) hsetters
  have hcontent : removeKeys contentHashExclude (req.members env.toWireEnv) =
      (setters.foldl Setter.apply start.builder).producerContent env.toWireEnv producer title
      contextType version := by
    rw [hreq]
    exact producerContent_eq env producer _ title contextType version contentHash
  have hsent : req.contentHash = contentHash := by rw [hreq]; rfl
  change hashOfMembers env.toEnv (removeKeys contentHashExclude _) = _ at hhash
  rw [producerContent_excluded, ← hsent] at hhash
  have hreadable : req.Readable := by
    refine readable_of_valid env req hvalid ?_
    rw [hreq]
    exact hclear
  have hread := hserde _ req (PublishRequest.read_toValue parseDateTime env.toWireEnv hchrono req hreadable)
  obtain ⟨bytes, hbytes, hpreimage⟩ :=
    canonicalPreimage_eq env.toEnv (req.members env.toWireEnv) _ hcontent _ hhash
  refine ⟨?_, title, contextType, version, _, bytes, rfl, hbytes, hcontent, hpreimage, req, hread, hvalid,
    hpreimage, ?_⟩
  · change hashOfMembers env.toEnv (removeKeys contentHashExclude _) = _
    rw [hcontent, hhash]
  · intro ctxId lineageId originRegistry now
    have hbody := (Registry.removeKeys_fromPublishRequest env req ctxId lineageId originRegistry now).trans
      hcontent
    obtain ⟨bytes', hbytes', hpreimage'⟩ := canonicalPreimage_eq env.toEnv _ _ hbody _ hhash
    obtain rfl := Except.ok.inj (hbytes.symm.trans hbytes')
    exact ⟨_, rfl, hbody, hpreimage'⟩

section Sample

open Acdp.Registry (spellingEnv)

def greetingHash : ContentHash := "sha256:2cf24dba5fb0a30e26e83b2ac5b9e29e1b161e5c1fa7425e73043362938b9824"

def attestedHash : ContentHash := "sha256:cfb9a733ddd9288c0b0a1d04413ad971e820c16ee18ee1d8c58239c8208948ba"

def attestedDigest : Merkle.Digest :=
  #v[207, 185, 167, 51, 221, 217, 40, 140, 11, 10, 29, 4, 65, 58, 217, 113, 232, 32, 193, 110, 225, 142,
    225, 216, 197, 130, 57, 200, 32, 137, 72, 186]

def greetingDigest : Merkle.Digest :=
  #v[44, 242, 77, 186, 95, 176, 163, 14, 38, 232, 59, 42, 197, 185, 226, 158, 27, 22, 30, 92, 31, 167,
    66, 94, 115, 4, 51, 98, 147, 139, 152, 36]

/-- The digests of the request's content, which opens with a brace, and of `hello`. -/
def builderSha256 : List UInt8 → Merkle.Digest
  | 123 :: _ => attestedDigest
  | _ => greetingDigest

def builderEnv : PublishEnv :=
  { spellingEnv with
    sha256 := builderSha256
    fmtRfc3339Ms := spell
    toRfc3339AutoSi := spell
    requestDeserialize := fun v => parsed (PublishRequest.read parseSpelled v) }

def sampleProducer : Producer where
  signContentHash := fun _ =>
    ("ed25519", "8vhXust4UiLYrxwaNL2wwQsDjN0K0pe1UfBDujM+zSFHe2lSmu771/yFQ4wxuSl0rt+EPPVG8hhgctA1Bo+2Bg==")
  agentId := "did:web:a.example"
  keyId := "did:web:a.example#acdp-kl-139e3940e64b5491722088d9a0d741628fc826e09475d341a780acde3c4b8070"
  keyAttestation := some ⟨"acdp://a.example/11111111-1111-4111-8111-111111111111", greetingHash⟩

def sampleDataRefs : List DataRef :=
  [⟨.rawData, some "Readings", some 5, some "text/plain", none, some greetingHash,
      some (.uri "https://a.example/readings.txt"), none, [("rows", .num (.posInt 1))]⟩,
    ⟨.derivedData, none, none, none, none, none, none, some ⟨.utf8, .str "hello", some greetingHash⟩, []⟩]

def sampleAnchors : List AnchorEntry :=
  [⟨"example.log", greetingHash, some "https://a.example/log/1", []⟩]

def sampleSetters : List Setter :=
  [.title "T", .contextType .analysis, .dataRefs sampleDataRefs, .anchors sampleAnchors, .expiresAt stamp,
    .omitAcdpVersion]

def sampleBuilder : RequestBuilder := sampleSetters.foldl Setter.apply Start.publishRequest.builder

def attestedRequest : PublishRequest := sampleBuilder.request sampleProducer "T" .analysis 1 attestedHash

theorem builderEnv_chrono (t : DateTime) : parseSpelled (fmtRfc3339Canonical builderEnv.toWireEnv t) =
    some t := by
  rw [fmtRfc3339Canonical]
  split_ifs <;> exact parseSpelled_spell t

theorem sampleSetters_clear : ∀ s ∈ sampleSetters, s.Clear := by
  have hrows : FreeExtensions DataRef.names [("rows", .num (.posInt 1))] := ⟨by decide, by decide⟩
  have hnone (names : List String) : FreeExtensions names [] := ⟨by simp, by simp⟩
  have hrefs : ClearExtensions sampleDataRefs none := ⟨by simp [sampleDataRefs, hrows, hnone], by simp⟩
  have hanchors : ClearExtensions [] (some sampleAnchors) := ⟨by simp, by simp [sampleAnchors, hnone]⟩
  simp [sampleSetters, Setter.Clear, hrefs, hanchors]

theorem builderSha256_object (cs : List Char) :
    encodeSha256Hex (builderSha256 (utf8 (String.ofList ('{' :: cs)))) = attestedHash := by
  have hbrace : utf8 (String.singleton '{') = [123] := by decide +kernel
  have hhash : encodeSha256Hex attestedDigest = attestedHash := by decide +kernel
  rw [utf8_ofList, List.flatMap_cons, hbrace]
  exact hhash

def attestedContent : List (String × Json) :=
  sampleBuilder.producerContent builderEnv.toWireEnv sampleProducer "T" .analysis 1

theorem builderEnv_canonicalize (v : Json) (h : v.depth ≤ 256) :
    builderEnv.canonicalize v = .ok (utf8 (String.ofList (Jcs.render (fun _ => Jcs.one) v))) :=
  Jcs.tryCanonicalizeValue_ok (fun _ => Jcs.one) v h

theorem attestedContent_hashed :
    computeContentHash builderEnv.toEnv (.obj attestedContent) = .ok attestedHash := by
  have hkept : removeKeys contentHashExclude attestedContent = attestedContent := by decide +kernel
  have hdepth : (Json.obj attestedContent).depth ≤ 256 := by decide +kernel
  change hashOfMembers builderEnv.toEnv (removeKeys contentHashExclude attestedContent) = _
  obtain ⟨cs, hcs⟩ : ∃ cs, Jcs.render (fun _ => Jcs.one) (.obj attestedContent) = '{' :: cs := by
    rw [Jcs.render, Jcs.writeObject]
    exact ⟨_, rfl⟩
  rw [hkept, hashOfMembers, builderEnv_canonicalize _ hdepth, hcs]
  exact congrArg Except.ok (builderSha256_object cs)

theorem attestedRequest_valid : validatePublishRequest builderEnv attestedRequest = .ok () := by
  rw [validatePublishRequest]
  simp only [seq_ok_iff]
  refine ⟨?_, ?_, ?_, ?_, ?_, ?_, ?_, ?_, ?_, ?_, ?_, ?_, ?_, ?_, ?_, ?_, ?_, ?_, ?_, ?_, ?_⟩ <;>
    decide +kernel

theorem attestedRequest_built : sampleBuilder.build builderEnv sampleProducer = .ok attestedRequest :=
  sampleBuilder.build_of_valid builderEnv sampleProducer "T" .analysis 1 attestedHash rfl rfl rfl (by decide)
    (by decide) attestedContent_hashed attestedRequest_valid

theorem sampleRequest_parses_back :
    computeContentHash builderEnv.toEnv (attestedRequest.toValue builderEnv.toWireEnv) = .ok attestedHash ∧
    ∃ bytes req', builderEnv.requestDeserialize (attestedRequest.toValue builderEnv.toWireEnv) = .ok req' ∧
      validatePublishRequest builderEnv req' = .ok () ∧
      canonicalPreimage builderEnv.toEnv (attestedRequest.toValue builderEnv.toWireEnv) =
        .ok (bytes, attestedHash) ∧
      canonicalPreimage builderEnv.toEnv (req'.toValue builderEnv.toWireEnv) = .ok (bytes, attestedHash) ∧
      ∃ body, body = Body.fromPublishRequest req' "acdp://a.example/22222222-2222-4222-8222-222222222222"
          ("lin:" ++ greetingHash) "a.example" stamp ∧
        canonicalPreimage builderEnv.toEnv (body.toValue builderEnv.toWireEnv) =
          .ok (bytes, attestedHash) := by
  have hserde : ∀ v r, PublishRequest.read parseSpelled v = some r →
      builderEnv.requestDeserialize v = .ok r :=
    fun v r => (parsed_ok (PublishRequest.read parseSpelled v) r).mpr
  obtain ⟨hhash, _, _, _, _, bytes, -, -, -, hsigned, req', hread, hvalid, hsent, hstored⟩ :=
    built_request_signs_what_it_sends builderEnv parseSpelled hserde builderEnv_chrono sampleProducer
      .publishRequest sampleSetters trivial sampleSetters_clear _ attestedRequest_built
  obtain ⟨body, hbody, -, hpreimage⟩ := hstored "acdp://a.example/22222222-2222-4222-8222-222222222222"
    ("lin:" ++ greetingHash) "a.example" stamp
  exact ⟨hhash, bytes, req', hread, hvalid, hsigned, hsent, body, hbody, hpreimage⟩

end Sample

end Acdp.Producer
