import Acdp.Crypto.Binding
import Acdp.Crypto.Envelope
import Acdp.Types.ClosedRoundTrip
import Acdp.Types.Decode
import Acdp.Types.Lifecycle
import Acdp.Types.Receipt
import Acdp.Validation.Fields

namespace Acdp.Types

open Acdp.Crypto
open Acdp.Foundation.Entries (seq_ok_iff)
open Acdp.Jcs (FloatFormat NumberValid SameNumber tryCanonicalizeValue)
open Acdp.Types.Json (Valid Same closedMembers closedMembersFrom)
open Acdp.Validation (PublishEnv)

inductive SignedKind where
  | producerContent
  | registryReceipt
  | lineageHeadReceipt
  | logCheckpoint
  | eventReceipt
  | logCosignature
  | lifecycleEvent
deriving DecidableEq

/-- The parsers of every signed kind. -/
structure SignedEnv extends PublishEnv where
  headReceiptDeserialize : Json → Except String LineageHeadReceipt
  parseDateTime : String → Option DateTime

def SignedEnv.toHeadEnv (env : SignedEnv) : HeadEnv where
  toEnv := env.toEnv
  headReceiptDeserialize := env.headReceiptDeserialize

structure ReadsSigned (env : SignedEnv) : Prop where
  body : ∀ v x, env.bodyDeserialize v = .ok x → Body.read env.parseDateTime v = some x
  request : ∀ v x, env.requestDeserialize v = .ok x → PublishRequest.read env.parseDateTime v = some x
  receipt : ∀ v x, env.receiptDeserialize v = .ok x → RegistryReceipt.read env.toLogEnv v = some x
  headReceipt : ∀ v x, env.headReceiptDeserialize v = .ok x → LineageHeadReceipt.read env.toLogEnv v = some x
  checkpoint : ∀ v x, env.checkpointDeserialize v = .ok x → LogCheckpoint.read env.toLogEnv v = some x
  eventReceipt : ∀ v x, env.eventReceiptDeserialize v = .ok x → EventReceipt.read env.toLogEnv v = some x
  cosignature : ∀ v x, env.cosignatureDeserialize v = .ok x → LogCosignature.read env.toLogEnv v = some x
  event : ∀ v x, env.eventDeserialize v = .ok x → LifecycleEvent.read env.toLogEnv v = some x

namespace SignedKind

def Accepts (env : SignedEnv) (v : Json) : SignedKind → Prop
  | .producerContent => (∃ b, env.bodyDeserialize v = .ok b) ∨ ∃ r, env.requestDeserialize v = .ok r
  | .registryReceipt => ∃ r, RegistryReceipt.fromValue env.toEnv v = .ok r
  | .lineageHeadReceipt => ∃ r, LineageHeadReceipt.fromValue env.toHeadEnv v = .ok r
  | .logCheckpoint => ∃ c, LogCheckpoint.fromValue env.toEnv v = .ok c
  | .eventReceipt => ∃ r, EventReceipt.fromValue env.toEnv v = .ok r
  | .logCosignature => ∃ c, LogCosignature.fromValue env.toEnv v = .ok c
  | .lifecycleEvent => ∃ e, LifecycleEvent.fromValue env.toEnv v = .ok e

def signingInput (env : Env) (v : Json) : SignedKind → Except AcdpError ContentHash
  | .producerContent => computeContentHash env v
  | .registryReceipt => RegistryReceipt.preimageHashOfValue env v
  | .lineageHeadReceipt => LineageHeadReceipt.preimageHashOfValue env v
  | .logCheckpoint => LogCheckpoint.preimageHashOfValue env v
  | .eventReceipt => EventReceipt.preimageHashOfValue env v
  | .logCosignature => LogCosignature.preimageHashOfValue env v
  | .lifecycleEvent => LifecycleEvent.preimageHashOfValue env v

def excluded : SignedKind → List String
  | .producerContent => contentHashExclude
  | _ => ["signature"]

def preimage (kind : SignedKind) (v : Json) : List (String × Json) :=
  (v.asObject.map (removeKeys kind.excluded)).getD []

def mark : SignedKind → String
  | .producerContent => "title"
  | .registryReceipt => "key_fingerprint"
  | .lineageHeadReceipt => "receipt_version"
  | .logCheckpoint => "checkpoint_version"
  | .eventReceipt => "receipt_type"
  | .logCosignature => "cosignature_version"
  | .lifecycleEvent => "event_type"

def closedNames : SignedKind → Option (List String)
  | .producerContent => none
  | .registryReceipt => some RegistryReceipt.names
  | .lineageHeadReceipt => some LineageHeadReceipt.names
  | .logCheckpoint => some LogCheckpoint.names
  | .eventReceipt => some EventReceipt.names
  | .logCosignature => some LogCosignature.names
  | .lifecycleEvent => some LifecycleEvent.names

theorem mark_not_excluded (kind : SignedKind) : kind.mark ∉ kind.excluded := by
  cases kind <;> decide

theorem mark_separates (kind other : SignedKind) (hne : kind ≠ other) :
    (∃ names, other.closedNames = some names ∧ kind.mark ∉ names) ∨
      ∃ names, kind.closedNames = some names ∧ other.mark ∉ names := by
  cases other with
  | producerContent =>
    refine .inr ?_
    cases kind with
    | producerContent => exact absurd rfl hne
    | _ => exact ⟨_, rfl, by decide⟩
  | _ =>
    refine .inl ⟨_, rfl, ?_⟩
    cases kind <;> first | exact absurd rfl hne | decide

theorem signingInput_ok (env : Env) (kind : SignedKind) (v : Json) (hash : ContentHash)
    (h : kind.signingInput env v = .ok hash) :
    ∃ members, v = .obj members ∧ hashOfMembers env (kind.preimage v) = .ok hash := by
  cases v with
  | obj members =>
    refine ⟨members, rfl, ?_⟩
    cases kind <;> exact h
  | _ => cases kind <;> cases h

end SignedKind

structure Carries (kind : SignedKind) (members : List (String × Json)) : Prop where
  mark : (members.lookup kind.mark).isSome = true
  closed : ∀ names, kind.closedNames = some names → members.map Prod.fst ⊆ names

section Members

variable {members : List (String × Json)}

theorem isSome_of_strField (key s : String) (h : strField members key = some s) :
    (members.lookup key).isSome = true := by
  rw [strField_eq_some members key s h]
  rfl

theorem Carries.of_closed (kind : SignedKind) (names : List String) (ms : List (String × Json)) (s : String)
    (hnames : kind.closedNames = some names) (hclosed : (Json.obj members).closedMembers names = some ms)
    (hmark : strField ms kind.mark = some s) : Carries kind members := by
  obtain ⟨rfl, hkeys⟩ := closedMembers_obj ms names members hclosed
  refine ⟨isSome_of_strField _ s hmark, ?_⟩
  intro names' hnames'
  obtain rfl := Option.some.inj (hnames.symm.trans hnames')
  exact hkeys

variable (env : LogEnv)

theorem RegistryReceipt.carries (r : RegistryReceipt) (h : RegistryReceipt.read env (.obj members) = some r) :
    Carries .registryReceipt members := by
  simp only [RegistryReceipt.read, Option.bind_eq_bind, Option.bind_eq_some_iff] at h
  obtain ⟨ms, hclosed, _, -, _, -, _, -, _, -, _, -, _, -, fingerprint, hfingerprint, -⟩ := h
  exact .of_closed _ _ ms fingerprint rfl hclosed hfingerprint

theorem LineageHeadReceipt.carries (r : LineageHeadReceipt)
    (h : LineageHeadReceipt.read env (.obj members) = some r) : Carries .lineageHeadReceipt members := by
  simp only [LineageHeadReceipt.read, Option.bind_eq_bind, Option.bind_eq_some_iff] at h
  obtain ⟨ms, hclosed, version, hversion, -⟩ := h
  exact .of_closed _ _ ms version rfl hclosed hversion

theorem LogCheckpoint.carries (c : LogCheckpoint) (h : LogCheckpoint.read env (.obj members) = some c) :
    Carries .logCheckpoint members := by
  simp only [LogCheckpoint.read, Option.bind_eq_bind, Option.bind_eq_some_iff] at h
  obtain ⟨ms, hclosed, version, hversion, -⟩ := h
  exact .of_closed _ _ ms version rfl hclosed hversion

theorem EventReceipt.carries (r : EventReceipt) (h : EventReceipt.read env (.obj members) = some r) :
    Carries .eventReceipt members := by
  simp only [EventReceipt.read, Option.bind_eq_bind, Option.bind_eq_some_iff] at h
  obtain ⟨ms, hclosed, receiptType, hreceiptType, -⟩ := h
  exact .of_closed _ _ ms receiptType rfl hclosed hreceiptType

theorem LogCosignature.carries (c : LogCosignature) (h : LogCosignature.read env (.obj members) = some c) :
    Carries .logCosignature members := by
  simp only [LogCosignature.read, Option.bind_eq_bind, Option.bind_eq_some_iff] at h
  obtain ⟨ms, hclosed, version, hversion, -⟩ := h
  exact .of_closed _ _ ms version rfl hclosed hversion

theorem LifecycleEvent.carries (e : LifecycleEvent) (h : LifecycleEvent.read env (.obj members) = some e) :
    Carries .lifecycleEvent members := by
  simp only [LifecycleEvent.read, Option.bind_eq_bind, Option.bind_eq_some_iff] at h
  obtain ⟨ms, hclosed, _, -, _, -, _, ⟨eventType, heventType, -⟩, -⟩ := h
  exact .of_closed _ _ ms eventType rfl hclosed heventType

variable (parseDateTime : String → Option DateTime)

theorem isSome_of_requiredField {α : Type} (key : String) (read : Json → Option α) (x : α)
    (h : requiredField members key read = some x) : (members.lookup key).isSome = true := by
  obtain ⟨v, hv, -⟩ := Option.bind_eq_some_iff.mp h
  rw [hv]
  rfl

theorem Body.carries (b : Body) (h : Body.read parseDateTime (.obj members) = some b) :
    Carries .producerContent members := by
  obtain ⟨ms, hobj, hread⟩ := Body.readFrom_of_read parseDateTime _ b h
  obtain rfl := Option.some.inj hobj
  exact ⟨isSome_of_requiredField "title" _ _ hread.title, fun names hnames => by cases hnames⟩

theorem PublishRequest.carries (r : PublishRequest)
    (h : PublishRequest.read parseDateTime (.obj members) = some r) : Carries .producerContent members := by
  obtain ⟨ms, hclosed, hread⟩ := PublishRequest.readFrom_of_read parseDateTime _ r h
  obtain ⟨rfl, -⟩ := closedMembers_obj ms PublishRequest.names members hclosed
  exact ⟨isSome_of_requiredField "title" _ _ hread.title, fun names hnames => by cases hnames⟩

end Members

theorem SignedKind.carries (env : SignedEnv) (serde : ReadsSigned env) (kind : SignedKind)
    (members : List (String × Json)) (h : kind.Accepts env (.obj members)) : Carries kind members := by
  cases kind with
  | producerContent =>
    rcases h with ⟨b, hb⟩ | ⟨r, hr⟩
    · exact Body.carries env.parseDateTime b (serde.body _ b hb)
    · exact PublishRequest.carries env.parseDateTime r (serde.request _ r hr)
  | registryReceipt =>
    obtain ⟨r, hr⟩ := h
    unfold RegistryReceipt.fromValue at hr
    split at hr
    · cases hr
    next r' hde => exact RegistryReceipt.carries env.toLogEnv r' (serde.receipt _ r' hde)
  | lineageHeadReceipt =>
    obtain ⟨r, hr⟩ := h
    obtain ⟨hde, -⟩ := LineageHeadReceipt.fromValue_ok env.toHeadEnv _ r hr
    exact LineageHeadReceipt.carries env.toLogEnv r (serde.headReceipt _ r hde)
  | logCheckpoint =>
    obtain ⟨c, hc⟩ := h
    obtain ⟨hde, -⟩ := LogCheckpoint.fromValue_ok env.toHeadEnv _ c hc
    exact LogCheckpoint.carries env.toLogEnv c (serde.checkpoint _ c hde)
  | eventReceipt =>
    obtain ⟨r, hr⟩ := h
    obtain ⟨hde, -⟩ := EventReceipt.fromValue_ok env.toHeadEnv _ r hr
    exact EventReceipt.carries env.toLogEnv r (serde.eventReceipt _ r hde)
  | logCosignature =>
    obtain ⟨c, hc⟩ := h
    obtain ⟨hde, -⟩ := LogCosignature.fromValue_ok env.toHeadEnv _ c hc
    exact LogCosignature.carries env.toLogEnv c (serde.cosignature _ c hde)
  | lifecycleEvent =>
    obtain ⟨e, he⟩ := h
    unfold LifecycleEvent.fromValue at he
    split at he
    · cases he
    next e' hde => exact LifecycleEvent.carries env.toLogEnv e' (serde.event _ e' hde)

theorem preimages_differ (fmt : FloatFormat) (kind other : SignedKind) (as bs : List (String × Json))
    (has : Carries kind as) (hbs : Carries other bs) (names : List String)
    (hnames : other.closedNames = some names) (hmark : kind.mark ∉ names)
    (hvalid : Valid NumberValid (.obj (removeKeys kind.excluded as)))
    (hvalid' : Valid NumberValid (.obj (removeKeys other.excluded bs))) :
    ¬ Same (SameNumber fmt) (.obj (removeKeys kind.excluded as)) (.obj (removeKeys other.excluded bs)) := by
  intro hsame
  rw [Valid] at hvalid hvalid'
  have hlookup := (Json.same_obj_iff_lookup _ _ _ hvalid.1 hvalid'.1).mp hsame kind.mark
  have habsent : bs.lookup kind.mark = none := by
    rw [Json.lookup_eq_none_iff_not_mem]
    exact fun hin => hmark (hbs.closed names hnames hin)
  rw [lookup_removeKeys _ _ kind.mark_not_excluded] at hlookup
  have hnone : (removeKeys other.excluded bs).lookup kind.mark = none := by
    by_cases hout : kind.mark ∈ other.excluded
    · exact lookup_removeKeys_of_mem _ _ hout
    · rw [lookup_removeKeys _ _ hout, habsent]
  obtain ⟨v, hv⟩ := Option.isSome_iff_exists.mp has.mark
  rw [hv, hnone] at hlookup
  cases hlookup

theorem signed_kinds_never_share_input (env : SignedEnv) (serde : ReadsSigned env) (fmt : FloatFormat)
    (hjcs : env.canonicalize = tryCanonicalizeValue fmt) (kind other : SignedKind) (hne : kind ≠ other)
    (v w : Json) (hv : Valid NumberValid v) (hw : Valid NumberValid w) (haccepts : kind.Accepts env v)
    (haccepts' : other.Accepts env w) (hsha : NoCollision env.toEnv (kind.preimage v) (other.preimage w))
    (input input' : ContentHash) (hinput : kind.signingInput env.toEnv v = .ok input)
    (hinput' : other.signingInput env.toEnv w = .ok input') :
    input ≠ input' ∧ ∀ (key : KeyBytes) (signature : Signature),
      (∀ message, verifyUnder env.toEnv signature message key = .ok () → message = input) →
      verifyUnder env.toEnv signature input' key ≠ .ok () ∧
      ∀ (agentId : AgentDid) (resolver : WebResolver),
        envelopeSigner env.toEnv signature resolver = some key →
        verifySignatureEnvelope env.toEnv agentId signature input' resolver ≠ .ok () := by
  obtain ⟨as, rfl, hhash⟩ := SignedKind.signingInput_ok env.toEnv kind v input hinput
  obtain ⟨bs, rfl, hhash'⟩ := SignedKind.signingInput_ok env.toEnv other w input' hinput'
  have has := kind.carries env serde as haccepts
  have hbs := other.carries env serde bs haccepts'
  have hvalid := valid_removeKeys NumberValid kind.excluded hv
  have hvalid' := valid_removeKeys NumberValid other.excluded hw
  have hdiffer : input ≠ input' := by
    rintro rfl
    have hsame := same_of_hashOfMembers env.toEnv fmt hjcs _ _ hvalid hvalid' hsha input hhash hhash'
    rcases SignedKind.mark_separates kind other hne with ⟨names, hnames, hmark⟩ | ⟨names, hnames, hmark⟩
    · exact preimages_differ fmt kind other as bs has hbs names hnames hmark hvalid hvalid' hsame
    · refine preimages_differ fmt other kind bs as hbs has names hnames hmark hvalid' hvalid ?_
      exact Json.same_symm NumberValid _ (fun _ _ he => he.symm) _ _ hvalid hvalid' hsame
  refine ⟨hdiffer, fun key signature honly => ?_⟩
  have hunder : verifyUnder env.toEnv signature input' key ≠ .ok () :=
    fun hverify => hdiffer (honly input' hverify).symm
  refine ⟨hunder, fun agentId resolver hsigner henvelope => ?_⟩
  obtain ⟨key', hsigner', hverify⟩ :=
    verifySignatureEnvelope_ok env.toEnv agentId signature input' resolver henvelope
  obtain rfl := Option.some.inj (hsigner.symm.trans hsigner')
  exact hunder hverify

section Sample

def retraction : Json :=
  .obj [("event_id", .str "11111111-1111-4111-8111-111111111111"),
    ("ctx_id", .str "acdp://a.example/11111111-1111-4111-8111-111111111111"),
    ("event_type", .str "retracted"),
    ("occurred_at", .str "2026-01-01T00:00:00.000Z"), ("actor", .str "did:web:a.example")]

def retractionText : String :=
  "\x7b\"actor\":\"did:web:a.example\"," ++
  "\"ctx_id\":\"acdp://a.example/11111111-1111-4111-8111-111111111111\"," ++
  "\"event_id\":\"11111111-1111-4111-8111-111111111111\",\"event_type\":\"retracted\"," ++
  "\"occurred_at\":\"2026-01-01T00:00:00.000Z\"\x7d"

def twoObjectsSha256 (bytes : List UInt8) : Merkle.Digest :=
  if bytes = utf8 retractionText then
    #v[34, 187, 85, 25, 90, 138, 245, 87, 178, 136, 47, 115, 176, 41, 167, 140, 10, 112, 171, 106,
    223, 64, 206, 242, 116, 241, 102, 40, 121, 224, 106, 144]
  else
    #v[24, 93, 89, 190, 169, 12, 177, 65, 2, 197, 34, 129, 206, 139, 115, 59, 249, 168, 142, 123,
    76, 243, 96, 115, 184, 251, 116, 91, 42, 37, 153, 228]

def parseStamp (raw : String) : Option DateTime := if raw = stampText then some stamp else none

def retractionInput : ContentHash :=
  "sha256:22bb55195a8af557b2882f73b029a78c0a70ab6adf40cef274f1662879e06a90"

def agentKey : Merkle.Digest :=
  #v[59, 106, 39, 188, 206, 182, 164, 45, 98, 163, 168, 208, 42, 111, 13, 115, 101, 50, 21, 119, 29, 226,
    67, 166, 58, 192, 72, 161, 139, 89, 218, 41]

def retractionSignature : Signature :=
  ⟨"ed25519", "did:web:a.example#k",
    "H/Doho1uf+/EiyfoAzu3Gr5DiIas9eenxgVWgYTJYQVdjDOdhwBZ6QPeoqciZuttAf02KoKUxB5boTMn03VqCg=="⟩

def signedEnv : SignedEnv where
  toEnv := { closedEnv.toEnv with
    sha256 := twoObjectsSha256
    verifyEd25519 := fun key value message =>
      if key = agentKey ∧ value = retractionSignature.value ∧ message = retractionInput then .ok ()
      else .error (.invalidSignature "signature verification failed")
    bodyDeserialize := fun v => parsed (Body.read parseStamp v)
    receiptDeserialize := fun v => parsed (RegistryReceipt.read plainEnv.toLogEnv v)
    eventDeserialize := fun v => parsed (LifecycleEvent.read plainEnv.toLogEnv v) }
  toRfc3339AutoSi := stampSpelling
  toVecLen := fun _ => 0
  base64Decode := fun _ => .error "Invalid padding"
  requestDeserialize := fun v => parsed (PublishRequest.read parseStamp v)
  debugStr := fun s => "\"" ++ s ++ "\""
  debugAnchor := fun _ => ""
  headReceiptDeserialize := closedEnv.headReceiptDeserialize
  parseDateTime := parseStamp

theorem signedEnv_serde : ReadsSigned signedEnv where
  body := fun v x => (parsed_ok (Body.read parseStamp v) x).mp
  request := fun v x => (parsed_ok (PublishRequest.read parseStamp v) x).mp
  receipt := fun v x => (parsed_ok (RegistryReceipt.read plainEnv.toLogEnv v) x).mp
  headReceipt := fun v x => (parsed_ok (LineageHeadReceipt.read plainEnv.toLogEnv v) x).mp
  checkpoint := fun v x => (parsed_ok (LogCheckpoint.read plainEnv.toLogEnv v) x).mp
  eventReceipt := fun v x => (parsed_ok (EventReceipt.read plainEnv.toLogEnv v) x).mp
  cosignature := fun v x => (parsed_ok (LogCosignature.read plainEnv.toLogEnv v) x).mp
  event := fun v x => (parsed_ok (LifecycleEvent.read plainEnv.toLogEnv v) x).mp

def retractionEvent : LifecycleEvent where
  eventId := "11111111-1111-4111-8111-111111111111"
  ctxId := "acdp://a.example/11111111-1111-4111-8111-111111111111"
  eventType := .retracted
  occurredAt := stamp
  actor := "did:web:a.example"
  reason := none
  signature := none

theorem retraction_input :
    SignedKind.signingInput signedEnv.toEnv retraction .lifecycleEvent = .ok retractionInput := by
  decide +kernel

theorem checkpoint_input : SignedKind.signingInput signedEnv.toEnv objectCheckpoint .logCheckpoint =
    .ok "sha256:185d59bea90cb14102c52281ce8b733bf9a88e7b4cf36073b8fb745b2a2599e4" := by
  decide +kernel

theorem retractionSignature_verifies (message : ContentHash) :
    verifyUnder signedEnv.toEnv retractionSignature message (.ed25519 agentKey) = .ok () ↔
      message = retractionInput := by
  have hif : verifyUnder signedEnv.toEnv retractionSignature message (.ed25519 agentKey) =
      if agentKey = agentKey ∧ retractionSignature.value = retractionSignature.value ∧
        message = retractionInput then .ok ()
      else .error (.invalidSignature "signature verification failed") := rfl
  rw [hif]
  split_ifs with h
  · exact ⟨fun _ => h.2.2, fun _ => rfl⟩
  · constructor
    · intro herror
      cases herror
    · intro heq
      exact absurd ⟨rfl, rfl, heq⟩ h

theorem retraction_input_ne_checkpoint_input :
    (SignedKind.signingInput signedEnv.toEnv retraction .lifecycleEvent ≠
      SignedKind.signingInput signedEnv.toEnv objectCheckpoint .logCheckpoint) ∧
    verifyUnder signedEnv.toEnv retractionSignature retractionInput (.ed25519 agentKey) = .ok () ∧
    verifyUnder signedEnv.toEnv retractionSignature
      "sha256:185d59bea90cb14102c52281ce8b733bf9a88e7b4cf36073b8fb745b2a2599e4" (.ed25519 agentKey) ≠
        .ok () := by
  have hvalid : Valid NumberValid retraction := by simp [retraction, Valid, Json.ValidMembers]
  have hvalid' : Valid NumberValid objectCheckpoint := by
    simp [objectCheckpoint, checkpointWith, Valid, Json.ValidMembers, NumberValid]
  have haccepts : SignedKind.lifecycleEvent.Accepts signedEnv retraction := by
    refine ⟨retractionEvent, ?_⟩
    decide +kernel
  have haccepts' : SignedKind.logCheckpoint.Accepts signedEnv objectCheckpoint := by
    refine ⟨emptyLogCheckpoint, ?_⟩
    decide +kernel
  have hsha : NoCollision signedEnv.toEnv (SignedKind.lifecycleEvent.preimage retraction)
      (SignedKind.logCheckpoint.preimage objectCheckpoint) := by
    intro bytes bytes' hbytes hbytes' hdigest
    obtain ⟨b, hb, hinput⟩ := hashOfMembers_ok _ _ _
      (SignedKind.signingInput_ok signedEnv.toEnv .lifecycleEvent retraction _ retraction_input).choose_spec.2
    obtain ⟨b', hb', hinput'⟩ := hashOfMembers_ok _ _ _
      (SignedKind.signingInput_ok signedEnv.toEnv .logCheckpoint objectCheckpoint _
      checkpoint_input).choose_spec.2
    obtain rfl := Except.ok.inj (hb.symm.trans hbytes)
    obtain rfl := Except.ok.inj (hb'.symm.trans hbytes')
    rw [hdigest, hinput'] at hinput
    exact absurd hinput (by decide)
  obtain ⟨hdiffer, hunder⟩ := signed_kinds_never_share_input signedEnv signedEnv_serde (fun _ => Jcs.one)
    rfl .lifecycleEvent .logCheckpoint (by decide) retraction objectCheckpoint hvalid hvalid' haccepts
    haccepts' hsha _ _ retraction_input checkpoint_input
  refine ⟨?_, (retractionSignature_verifies _).mpr rfl, (hunder (.ed25519 agentKey) retractionSignature
    (fun message => (retractionSignature_verifies message).mp)).1⟩
  rw [retraction_input, checkpoint_input]
  exact fun heq => hdiffer (Except.ok.inj heq)

end Sample

end Acdp.Types
