import Acdp.A2a.Verify
import Acdp.Types.ClosedRoundTrip
import Acdp.Types.JsonParts

namespace Acdp.A2a

open Acdp.Types
open Acdp.Types.Json (insertMember optional)
open Acdp.Crypto
open Acdp.Producer
open Acdp.Provenance
open Acdp.Foundation.Entries

section Prepared

variable (env : A2aEnv) (producer : Producer) (c : Completion) (template : BodyTemplate)

structure PreparedFrom (p : Prepared) (embedded : Bool)
    (artifactIdHash taskIdHash contextIdHash partsDigest : String) : Prop where
  artifactId : idHash env c.artifact.artifactId p.salt = .ok artifactIdHash
  taskId : idHash env c.taskId p.salt = .ok taskIdHash
  contextId : idHash env c.contextId p.salt = .ok contextIdHash
  parts : partsHash env c.artifact.parts (if !embedded then some p.salt else none) = .ok partsDigest
  agentId : p.request.agentId = producer.agentId
  metadata : p.request.metadata.bind (·.get recordKey) =
    some (.obj (recordMembers env c template (!embedded) embedded
    artifactIdHash taskIdHash contextIdHash partsDigest))

theorem foldl_metadata (setters : List Setter) (b : RequestBuilder)
    (h : ∀ s ∈ setters, ∀ b, (Setter.apply b s).metadata = b.metadata) :
    (setters.foldl Setter.apply b).metadata = b.metadata := by
  induction setters generalizing b with
  | nil => rfl
  | cons s setters ih =>
    obtain ⟨hs, hsetters⟩ := List.forall_mem_cons.mp h
    rw [List.foldl_cons, ih _ hsetters, hs]

theorem bodySetters_metadata (dataRefs : List DataRef) (metadata : List (String × Json))
    (b : RequestBuilder) : ((bodySetters c template dataRefs metadata).foldl Setter.apply b).metadata =
      some (.obj metadata) := by
  unfold bodySetters
  simp only [List.append_assoc]
  rw [List.foldl_append, foldl_metadata]
  · rfl
  · intro s hs b
    simp only [List.mem_append, Option.mem_toList, Option.map_eq_some_iff, List.mem_ite_nil_left,
      List.mem_singleton] at hs
    rcases hs with ⟨-, rfl⟩ | ⟨-, rfl⟩ | ⟨x, -, rfl⟩ | ⟨x, -, rfl⟩ | ⟨x, -, rfl⟩ | ⟨-, rfl⟩ | ⟨x, -, rfl⟩ |
      ⟨x, -, rfl⟩ <;> rfl

theorem prepare_ok (embedding : Embedding) (freshSalt : Except AcdpError Salt) (p : Prepared)
    (h : prepare env producer c template embedding freshSalt = .ok p) :
    freshSalt = .ok p.salt ∧ ∃ embedded artifactIdHash taskIdHash contextIdHash partsDigest,
      PreparedFrom env producer c template p embedded artifactIdHash taskIdHash contextIdHash
        partsDigest := by
  unfold prepare at h
  rw [guard_ok_iff] at h
  obtain ⟨-, h⟩ := h
  rw [guard_ok_iff] at h
  obtain ⟨-, h⟩ := h
  rw [guard_ok_iff] at h
  obtain ⟨-, h⟩ := h
  obtain ⟨ref, -, h⟩ := bind_ok _ _ _ h
  obtain ⟨salt, hsalt, h⟩ := bind_ok _ _ _ h
  rw [guard_ok_iff] at h
  obtain ⟨-, h⟩ := h
  obtain ⟨record, hrecord, h⟩ := bind_ok _ _ _ h
  obtain ⟨request, hbuild, h⟩ := bind_ok _ _ _ h
  obtain rfl := Except.ok.inj h
  obtain ⟨artifactIdHash, hartifact, hrecord⟩ := bind_ok _ _ _ hrecord
  obtain ⟨taskIdHash, htask, hrecord⟩ := bind_ok _ _ _ hrecord
  obtain ⟨contextIdHash, hcontext, hrecord⟩ := bind_ok _ _ _ hrecord
  obtain ⟨partsDigest, hparts, hrecord⟩ := bind_ok _ _ _ hrecord
  obtain rfl := Except.ok.inj hrecord
  obtain ⟨title, contextType, version, contentHash, -, -, rfl⟩ := RequestBuilder.build_request _ _ _ _ hbuild
  refine ⟨hsalt, ref.isSome, artifactIdHash, taskIdHash, contextIdHash, partsDigest, hartifact, htask,
    hcontext, hparts, rfl, ?_⟩
  change (RequestBuilder.metadata _).bind _ = _
  rw [bodySetters_metadata, Option.bind_some, Json.get, Json.asObject, Option.bind_some, lookup_insertMember,
    if_pos rfl]

end Prepared

section Record

variable (env : A2aEnv) (c : Completion) (template : BodyTemplate)

theorem recordLabel_bounded (value : Option String) (max : ℕ) (hmax : 0 < max) (n : String)
    (h : recordLabel value max = some n) : boundedStr (some (.str n)) max = true := by
  obtain ⟨s, hs, rfl⟩ := Option.map_eq_some_iff.mp h
  obtain ⟨-, hne⟩ := Option.filter_eq_some_iff.mp hs
  exact (boundedStr_truncate s max hmax).mpr (by simpa using hne)

section Lookup

variable (saltParts embedded : Bool) (artifactIdHash taskIdHash contextIdHash partsDigest : String)

theorem lookup_recordMembers :
    let record := recordMembers env c template saltParts embedded artifactIdHash taskIdHash
      contextIdHash partsDigest
    record.lookup "record_version" = some (.str recordVersion) ∧
    record.lookup "a2a_protocol_version" = some (.str (truncate c.a2aProtocolVersion maxProtocolVersion)) ∧
    record.lookup "artifact_id_hash" = some (.str artifactIdHash) ∧
    record.lookup "role" = c.artifact.recordRole.map .str ∧
    record.lookup "task_id_hash" = some (.str taskIdHash) ∧
    record.lookup "context_id_hash" = some (.str contextIdHash) ∧
    record.lookup "parts_hash" = some (.str partsDigest) ∧
    record.lookup "salted" = some (.bool saltParts) ∧ record.lookup "embedded" = some (.bool embedded) ∧
    record.lookup "name" = (if template.recordName then recordName c.artifact.name else none).map .str ∧
    record.lookup "description" =
      (if template.recordDescription then recordDescription c.artifact.description else none).map .str ∧
    record.lookup "completed_at" = some (.str (env.fmtRfc3339Ms c.completedAt.truncMs)) := by
  simp [recordMembers, lookup_append, lookup_optional, List.lookup_cons]

theorem checkKeys_recordMembers :
    checkKeys "record" recordKeys
      (recordMembers env c template saltParts embedded artifactIdHash taskIdHash contextIdHash
      partsDigest) = .ok () := by
  have hnone : (recordMembers env c template saltParts embedded artifactIdHash taskIdHash contextIdHash
      partsDigest).find? (fun m => m.1 ∉ recordKeys) = none := by
    rw [List.find?_eq_none]
    intro m hm
    have hkey := List.mem_map_of_mem (f := Prod.fst) hm
    simp only [recordMembers, List.map_append, List.mem_append, keys_optional, List.map_cons, List.map_nil,
      List.mem_cons, List.not_mem_nil, or_false] at hkey
    simp only [recordKeys, List.mem_cons, List.not_mem_nil, or_false, decide_eq_true_eq, not_not]
    tauto
  rw [checkKeys, hnone]

end Lookup

theorem checkMembers_recordMembers (embedded : Bool)
    (artifactIdHash taskIdHash contextIdHash partsDigest : String)
    (hartifact : isHash (.str artifactIdHash) = true) (htask : isHash (.str taskIdHash) = true)
    (hcontext : isHash (.str contextIdHash) = true) (hparts : isHash (.str partsDigest) = true)
    (hprotocol : c.a2aProtocolVersion ≠ "")
    (hcompleted : isTimestamp (.str (env.fmtRfc3339Ms c.completedAt.truncMs)) = true) :
    checkMembers (recordMembers env c template (!embedded) embedded artifactIdHash taskIdHash contextIdHash
      partsDigest) = .ok () := by
  obtain ⟨hversion, hprotocolVersion, hartifactId, hrole, htaskId, hcontextId, hpartsHash, hsalted,
    hembedded, hname, hdescription, htime⟩ :=
      lookup_recordMembers env c template (!embedded) embedded artifactIdHash taskIdHash
        contextIdHash partsDigest
  have hbounded := (boundedStr_truncate c.a2aProtocolVersion maxProtocolVersion (by decide)).mpr hprotocol
  have hlabel : ∀ (recorded : Bool) (value : Option String) (max : ℕ), 0 < max →
      ¬ (((if recorded then recordLabel value max else none).map Json.str).isSome = true ∧
        ¬ boundedStr ((if recorded then recordLabel value max else none).map Json.str) max = true) := by
    intro recorded value max hmax hbad
    obtain ⟨hsome, hbad⟩ := hbad
    obtain ⟨n, hn⟩ := Option.isSome_iff_exists.mp hsome
    obtain ⟨label, hlabel, rfl⟩ := Option.map_eq_some_iff.mp hn
    rw [hn] at hbad
    split at hlabel
    · exact hbad (recordLabel_bounded value max hmax label hlabel)
    · cases hlabel
  have hagent : (c.artifact.recordRole.map Json.str).any (fun r => r ≠ .str roleAgent) = false := by
    unfold AssembledArtifact.recordRole
    split <;> simp
  rw [checkMembers]
  simp only [seq_ok_iff, guard_ok_iff, ite_error_ok_iff, checkEach_ok_iff, not_not]
  refine ⟨checkKeys_recordMembers .., ?_, ?_, ?_, ?_, ?_, ?_, ?_, ?_, ?_⟩
  · rw [hversion]
    simp [Json.asStr]
  · rw [hprotocolVersion]
    exact hbounded
  · simp [hartifactId, htaskId, hcontextId, hpartsHash, hartifact, htask, hcontext, hparts]
  · rw [hrole, hagent]
    simp
  · simp [hsalted, hembedded, isBoolean, Json.asBool]
  · rw [hsalted, hembedded]
    cases embedded <;> simp
  · rw [hname]
    exact hlabel _ _ _ (by decide)
  · rw [hdescription]
    exact hlabel _ _ _ (by decide)
  · rw [htime]
    exact hcompleted

end Record

section Held

variable (env : A2aEnv) (c : Completion) (template : BodyTemplate)

/-- What the record says of the labels is what the held artifact says. -/
structure Labels (artifact : AssembledArtifact) (held : List (String × Json)) : Prop where
  name : template.recordName = true → ∀ n, recordName artifact.name = some n →
    recordName ((held.lookup "name").bind Json.asStr) = some n
  description : template.recordDescription = true → ∀ d, recordDescription artifact.description = some d →
    recordDescription ((held.lookup "description").bind Json.asStr) = some d
  role : artifact.role = some roleAgent → heldRole held = roleAgent

structure Matches (held : List (String × Json)) : Prop where
  parts : heldParts env held = .ok c.artifact.parts
  artifactId : (held.lookup "artifactId").bind Json.asStr = some c.artifact.artifactId
  labels : Labels template c.artifact held

theorem checkLabel_ok (record held : List (String × Json)) (key : String)
    (label : Option String → Option String) (reason : String) (recorded : Bool) (value : Option String)
    (hrecord : record.lookup key = (if recorded then label value else none).map .str)
    (hheld : recorded = true → ∀ n, label value = some n →
      label ((held.lookup key).bind Json.asStr) = some n) :
    checkLabel record held key label reason = .ok () := by
  rw [checkLabel, hrecord]
  cases hlabel : if recorded then label value else none with
  | none => rfl
  | some n =>
    split at hlabel
    next hrecorded => simp [hheld hrecorded n hlabel, Json.asStr]
    · cases hlabel

variable (producer : Producer) (p : Prepared) (embedded : Bool)
  (artifactIdHash taskIdHash contextIdHash partsDigest : String)

theorem matchArtifact_ok
    (h : PreparedFrom env producer c template p embedded artifactIdHash taskIdHash contextIdHash partsDigest)
    (held : List (String × Json)) (hheld : Matches env c template held) :
    matchArtifact env
      (recordMembers env c template (!embedded) embedded artifactIdHash taskIdHash contextIdHash
      partsDigest) held p.salt = .ok () := by
  obtain ⟨-, -, hartifactId, hrole, -, -, hpartsHash, hsalted, -, hname, hdescription, -⟩ :=
    lookup_recordMembers env c template (!embedded) embedded artifactIdHash taskIdHash
      contextIdHash partsDigest
  have hsaltedIff : (some (Json.bool !embedded) = some (.bool true)) ↔ (!embedded) = true := by simp
  have hroleOk : (c.artifact.recordRole.map Json.str).any (fun r => r ≠ .str (heldRole held)) = false := by
    unfold AssembledArtifact.recordRole
    split
    next hagent => simp [hheld.labels.role hagent]
    · rfl
  have hnameOk := checkLabel_ok _ held "name" recordName "record name differs from the held name"
    template.recordName c.artifact.name hname hheld.labels.name
  have hdescriptionOk := checkLabel_ok _ held "description" recordDescription
    "record description differs from the held description" template.recordDescription c.artifact.description
    hdescription hheld.labels.description
  have hid : heldId held = .ok c.artifact.artifactId := by
    rw [heldId, hheld.artifactId]
  simp only [matchArtifact, hheld.parts, hsalted, hsaltedIff, bind, Except.bind]
  rw [h.parts]
  simp only [hashOrPanic, hpartsHash, hid, h.artifactId, hartifactId, hnameOk, hdescriptionOk, hrole, hroleOk]
  simp

theorem matchId_ok (record : List (String × Json)) (salt : Salt) (key : String) (id hash : String)
    (held : Option String) (kind : FailureKind) (reason : String) (hheld : ∀ i ∈ held, i = id)
    (hid : idHash env id salt = .ok hash)
    (hrecord : record.lookup key = some (.str hash)) : matchId env record salt key held kind reason =
      .ok () := by
  cases held with
  | none => rfl
  | some i =>
    rw [hheld i rfl]
    simp [matchId, hid, hashOrPanic, hrecord, bind, Except.bind]

theorem verifyAgainstBody_prepared
    (h : PreparedFrom env producer c template p embedded artifactIdHash taskIdHash contextIdHash partsDigest)
    (hprotocol : c.a2aProtocolVersion ≠ "") (hcompleted : InYears c.completedAt)
    (hchrono : ∀ t, InYears t → IsRfc3339Ms (env.fmtRfc3339Ms t)) (hround : p.salt.RoundTrips env.toSaltEnv)
    (ctxId : CtxId) (lineageId : LineageId) (now : DateTime) (status : Option Status) (held : HeldArtifact)
    (members : List (String × Json)) (hmembers : held.artifact = .obj members)
    (hlink : linkOf held.artifact = some (p.link env ctxId)) (hmatches : Matches env c template members)
    (htask : ∀ i ∈ held.taskId, i = c.taskId) (hcontext : ∀ i ∈ held.contextId, i = c.contextId) :
    verifyAgainstBody env
      (Body.fromPublishRequest p.request ctxId lineageId (CtxId.authority ctxId) now) status held
      ⟨.deferToCaller, none⟩ =
        .ok ⟨ctxId, producer.agentId, status, held.taskId.isSome, held.contextId.isSome⟩ := by
  let link : List (String × Json) := [("ctx_id", .str ctxId), ("content_hash", .str p.request.contentHash),
    ("registry", .str (CtxId.authority ctxId)), ("salt", .str (p.salt.toBase64url env.toSaltEnv))]
  have hpublished : publishedLink held = .ok link := by
    rw [publishedLink, hlink]
    rfl
  generalize hbody : Body.fromPublishRequest p.request ctxId lineageId (CtxId.authority ctxId) now = body
  have hctx : body.ctxId = ctxId := by rw [← hbody]; rfl
  have hagent : body.agentId = producer.agentId := by rw [← hbody]; exact h.agentId
  have hbind : bindLink body link = .ok () := by
    rw [← hbody]
    simp [bindLink, link, Body.fromPublishRequest, List.lookup_cons, Json.asStr]
  have hchecked :=
    checkMembers_recordMembers env c template embedded artifactIdHash taskIdHash contextIdHash partsDigest
      (callHash_isHash env.toSaltEnv _ _ _ h.artifactId) (callHash_isHash env.toSaltEnv _ _ _ h.taskId)
      (callHash_isHash env.toSaltEnv _ _ _ h.contextId)
      (callHash_isHash env.toSaltEnv _ _ _ h.parts) hprotocol
      (isTimestamp_of_rfc3339Ms _ (hchrono _ (truncMs_inYears _ hcompleted)))
  have hrecord : recordOf body =
    .ok (recordMembers env c template (!embedded) embedded artifactIdHash taskIdHash
      contextIdHash partsDigest) := by
    have hmetadata : body.metadata.bind (·.get recordKey) =
      some (.obj (recordMembers env c template (!embedded) embedded
        artifactIdHash taskIdHash contextIdHash partsDigest)) := by
      rw [← hbody]
      exact h.metadata
    simp [recordOf, hmetadata, checkRecord, Json.asObject, hchecked]
  have hsalt : linkSalt env link = .ok p.salt := by
    simp [linkSalt, link, List.lookup_cons, Salt.fromBase64url_toBase64url env.toSaltEnv p.salt hround]
  have hobject : heldObject held = .ok members := by
    simp [heldObject, hmembers, Json.asObject]
  obtain ⟨-, -, -, -, htaskId, hcontextId, -⟩ :=
    lookup_recordMembers env c template (!embedded) embedded artifactIdHash
      taskIdHash contextIdHash partsDigest
  have hartifact :=
    matchArtifact_ok env c template producer p embedded artifactIdHash taskIdHash contextIdHash
      partsDigest h members hmatches
  have htaskOk := matchId_ok env _ p.salt "task_id_hash" c.taskId taskIdHash held.taskId .taskMismatch
    "task_id_hash does not match the task id" htask h.taskId htaskId
  have hcontextOk :=
    matchId_ok env _ p.salt "context_id_hash" c.contextId contextIdHash held.contextId .contextMismatch
      "context_id_hash does not match the context id" hcontext h.contextId hcontextId
  simp only [verifyAgainstBody, hpublished, hbind, checkAgent, hrecord, hsalt, hobject, hartifact,
    htaskOk, hcontextOk, hctx, hagent, bind, Except.bind, pure, Except.pure]

end Held

section Snapshot

variable (env : A2aEnv) (a : AssembledArtifact) (link : Json)

theorem snapshotMetadata_ne_nil : a.snapshotMetadata (some link) ≠ [] := by
  intro hnil
  have hlookup := lookup_insertMember (a.metadata.getD []) linkKey link linkKey
  rw [if_pos rfl] at hlookup
  rw [AssembledArtifact.snapshotMetadata] at hnil
  rw [hnil] at hlookup
  cases hlookup

theorem lookup_toSnapshot : ∃ members, a.toSnapshot (some link) = .obj members ∧
    members.lookup "artifactId" = some (.str a.artifactId) ∧ members.lookup "parts" = some (.arr a.parts) ∧
    members.lookup "name" = a.name.map .str ∧ members.lookup "description" = a.description.map .str ∧
    members.lookup "role" = a.role.map .str ∧
    members.lookup "metadata" = some (.obj (a.snapshotMetadata (some link))) := by
  refine ⟨_, rfl, ?_⟩
  rw [if_pos (.inl (snapshotMetadata_ne_nil a link))]
  simp [lookup_append, lookup_optional, List.lookup_cons]

theorem linkOf_toSnapshot : linkOf (a.toSnapshot (some link)) = some link := by
  obtain ⟨members, hmembers, -, -, -, -, -, hmetadata⟩ := lookup_toSnapshot a link
  rw [linkOf, hmembers, Json.get, Json.asObject, Option.bind_some, hmetadata, Option.bind_some, Json.get,
    Json.asObject, Option.bind_some, AssembledArtifact.snapshotMetadata, lookup_insertMember, if_pos rfl]

end Snapshot

section Bound

variable (env : A2aEnv)

theorem hashOrPanic_ok (hash : Except AcdpError String) (digest : String)
    (h : hashOrPanic hash = .ok digest) : hash = .ok digest := by
  cases hash with
  | error e => cases h
  | ok d => rw [Except.ok.inj h]

theorem verifyAgainstBody_ok (body : Body) (status : Option Status) (held : HeldArtifact)
    (policy : HolderPolicy) (verdict : HolderVerdict)
    (h : verifyAgainstBody env body status held policy = .ok verdict) :
    ∃ link record salt members parts id partsDigest idDigest, publishedLink held = .ok link ∧
      recordOf body = .ok record ∧ linkSalt env link = .ok salt ∧ held.artifact.asObject = some members ∧
      heldParts env members = .ok parts ∧
      partsHash env parts (if record.lookup "salted" = some (.bool true) then some salt else none) =
        .ok partsDigest ∧
      record.lookup "parts_hash" = some (.str partsDigest) ∧
      (members.lookup "artifactId").bind Json.asStr = some id ∧ idHash env id salt = .ok idDigest ∧
      record.lookup "artifact_id_hash" = some (.str idDigest) := by
  unfold verifyAgainstBody at h
  obtain ⟨link, hlink, h⟩ := bind_ok _ _ _ h
  rw [seq_ok_iff, seq_ok_iff] at h
  obtain ⟨-, -, h⟩ := h
  obtain ⟨record, hrecord, h⟩ := bind_ok _ _ _ h
  obtain ⟨salt, hsalt, h⟩ := bind_ok _ _ _ h
  obtain ⟨members, hobject, h⟩ := bind_ok _ _ _ h
  rw [seq_ok_iff] at h
  obtain ⟨hmatch, -⟩ := h
  have hmembers : held.artifact.asObject = some members := by
    unfold heldObject at hobject
    split at hobject
    · cases hobject
    next hsome =>
      rw [hsome, Except.ok.inj hobject]
  unfold matchArtifact at hmatch
  obtain ⟨parts, hparts, hmatch⟩ := bind_ok _ _ _ hmatch
  obtain ⟨partsDigest, hdigest, hmatch⟩ := bind_ok _ _ _ hmatch
  rw [guard_ok_iff, not_not] at hmatch
  obtain ⟨hpartsHash, hmatch⟩ := hmatch
  obtain ⟨id, hid, hmatch⟩ := bind_ok _ _ _ hmatch
  obtain ⟨idDigest, hidDigest, hmatch⟩ := bind_ok _ _ _ hmatch
  rw [guard_ok_iff, not_not] at hmatch
  obtain ⟨hidHash, -⟩ := hmatch
  have hartifactId : (members.lookup "artifactId").bind Json.asStr = some id := by
    unfold heldId at hid
    split at hid
    · cases hid
    next hsome =>
      rw [hsome, Except.ok.inj hid]
  exact ⟨link, record, salt, members, parts, id, partsDigest, idDigest, hlink, hrecord, hsalt,
    hmembers, hparts, hashOrPanic_ok _ _ hdigest, hpartsHash, hartifactId,
    hashOrPanic_ok _ _ hidDigest, hidHash⟩

theorem heldParts_valid (P : Number → Prop) (members : List (String × Json)) (parts : List Json)
    (hmembers : (Json.obj members).Valid P) (h : heldParts env members = .ok parts) :
    (Json.arr parts).Valid P := by
  unfold heldParts at h
  split at h
  next held hheld =>
    split at h
    · cases h
    next normal hnormal =>
      obtain rfl := Except.ok.inj h
      rw [normalizeParts_ok_iff] at hnormal
      have hitems := (Json.validMembers_iff P members).mp hmembers.2 _ (Json.mem_of_lookup _ _ _ hheld)
      refine (Json.validItems_iff P normal).mpr (fun p hp => ?_)
      obtain ⟨part, hpart, hp⟩ := mem_of_forall₂_ok _ _ _ hnormal p hp
      exact normalizePart_valid env P part p ((Json.validItems_iff P held).mp hitems part hpart) hp
  · obtain rfl := Except.ok.inj h
    trivial
  · obtain rfl := Except.ok.inj h
    trivial
  · cases h

def NoCollision (salt : Option Salt) (v w : Json) : Prop :=
  ∀ bytes bytes', env.canonicalize v = .ok bytes → env.canonicalize w = .ok bytes' →
    env.sha256 ((salt.map (·.toList)).getD [] ++ bytes) =
    env.sha256 ((salt.map (·.toList)).getD [] ++ bytes') →
    bytes = bytes'

theorem same_of_callHash (fmt : Jcs.FloatFormat) (hjcs : env.canonicalize = Jcs.tryCanonicalizeValue fmt)
    (salt : Option Salt) (v w : Json) (hv : v.Valid Jcs.NumberValid) (hw : w.Valid Jcs.NumberValid)
    (hsha : NoCollision env salt v w) (digest : String) (hdigest : callHash env.toSaltEnv v salt = .ok digest)
    (hdigest' : callHash env.toSaltEnv w salt = .ok digest) : v.Same (Jcs.SameNumber fmt) w := by
  obtain ⟨bytes, hbytes, hdigest⟩ := bind_ok _ _ _ hdigest
  obtain ⟨bytes', hbytes', hdigest'⟩ := bind_ok _ _ _ hdigest'
  have hequal := encodeSha256Hex_injective ((Except.ok.inj hdigest).trans (Except.ok.inj hdigest').symm)
  obtain rfl := hsha bytes bytes' hbytes hbytes' hequal
  rw [hjcs] at hbytes hbytes'
  exact tryCanonicalizeValue_same fmt v w hv hw bytes hbytes hbytes'

theorem normalized_of_same (parts normal : List Json) (hnormal : Normal env normal)
    (h : List.Forall₂ (fun q part => normalizePart env q = normalizePart env part) parts normal) :
    List.Forall₂ (fun q part => normalizePart env q = .ok part) parts normal := by
  induction h with
  | nil => exact .nil
  | cons hq _ ih =>
    obtain ⟨hpart, hrest⟩ := List.forall_mem_cons.mp hnormal
    exact .cons (hq.trans hpart) (ih hrest)

def heldContent (artifact : Json) : Option (List Json × String) :=
  artifact.asObject.bind (fun members =>
    (heldParts env members).toOption.bind (fun parts =>
      ((members.lookup "artifactId").bind Json.asStr).map (fun id => (parts, id))))

end Bound

section Snapshots

variable (env : A2aEnv) (c : Completion) (template : BodyTemplate)

theorem matches_toSnapshot (parts : List Json) (hparts : normalizeParts env parts = .ok c.artifact.parts)
    (link : Json) : ∃ members,
      { c.artifact with parts := parts }.toSnapshot (some link) = .obj members ∧
        Matches env c template members := by
  obtain ⟨members, hmembers, hid, hmemberParts, hname, hdescription, hrole, -⟩ :=
    lookup_toSnapshot { c.artifact with parts := parts } link
  have hasStr : ∀ o : Option String, (o.map Json.str).bind Json.asStr = o := by
    intro o
    cases o <;> rfl
  refine ⟨members, hmembers, ?_, ?_, ?_, ?_, ?_⟩
  · simp [heldParts, hmemberParts, hparts]
  · simp [hid, Json.asStr]
  · rw [hname, hasStr]
    exact fun _ _ hn => hn
  · rw [hdescription, hasStr]
    exact fun _ _ hd => hd
  · intro hagent
    simp [heldRole, hrole, hagent, Json.asStr, roleAgent, roleUnspecified]

end Snapshots

/-- What the agent prepares for an artifact that it assembled verifies for the holder of the snapshot, in
whichever spelling the holder has the parts; and one body and one link bind one content. -/
theorem published_artifact_verifies (env : A2aEnv) (hbase64 : Base64Laws env)
    (hchrono : ∀ t, InYears t → IsRfc3339Ms (env.fmtRfc3339Ms t)) :
    (∀ (taskId contextId : String) (calls : List IngestCall) (producer : Producer) (c : Completion)
      (template : BodyTemplate) (embedding : Embedding) (freshSalt : Except AcdpError Salt) (p : Prepared),
      c.artifact ∈ (TaskAssembly.after env taskId contextId calls).artifacts → c.a2aProtocolVersion ≠ "" →
      InYears c.completedAt → prepare env producer c template embedding freshSalt = .ok p →
      p.salt.RoundTrips env.toSaltEnv →
      ∀ (ctxId : CtxId) (lineageId : LineageId) (now : DateTime) (status : Option Status) (parts : List Json),
        List.Forall₂ (fun q part => normalizePart env q = normalizePart env part) parts c.artifact.parts →
        verifyAgainstBody env
          (Body.fromPublishRequest p.request ctxId lineageId (CtxId.authority ctxId) now) status
          ⟨{ c.artifact with parts := parts }.toSnapshot (some (p.link env ctxId)), some c.taskId,
            some c.contextId⟩
          ⟨.deferToCaller, none⟩ = .ok ⟨ctxId, producer.agentId, status, true, true⟩) ∧
    ∀ (fmt : Jcs.FloatFormat), env.canonicalize = Jcs.tryCanonicalizeValue fmt →
      ∀ (body : Body) (status status' : Option Status) (held held' : HeldArtifact)
        (policy policy' : HolderPolicy) (verdict verdict' : HolderVerdict),
          held.artifact.Valid Jcs.NumberValid →
        held'.artifact.Valid Jcs.NumberValid → linkOf held.artifact = linkOf held'.artifact →
        verifyAgainstBody env body status held policy = .ok verdict →
        verifyAgainstBody env body status' held' policy' = .ok verdict' →
        ∃ parts id parts' id', heldContent env held.artifact = some (parts, id) ∧
          heldContent env held'.artifact = some (parts', id') ∧
          ((∀ salt, NoCollision env salt (.arr parts) (.arr parts') ∧
            NoCollision env salt (.str id) (.str id')) →
              (Json.arr parts).Same (Jcs.SameNumber fmt) (.arr parts') ∧ id = id') := by
  constructor
  · intro taskId contextId calls producer c template embedding freshSalt p hartifact hprotocol hcompleted
      hprepare hround ctxId lineageId now status parts hparts
    obtain ⟨-, embedded, artifactIdHash, taskIdHash, contextIdHash, partsDigest, hprepared⟩ :=
      prepare_ok env producer c template embedding freshSalt p hprepare
    have hnormal : Normal env c.artifact.parts := by
      obtain ⟨e, he, hart⟩ := List.mem_map.mp hartifact
      rw [← hart]
      exact TaskAssembly.after_normalParts env hbase64 taskId contextId calls e he
    have hnormalized : normalizeParts env parts = .ok c.artifact.parts := by
      rw [normalizeParts_ok_iff]
      exact normalized_of_same env parts c.artifact.parts hnormal hparts
    obtain ⟨members, hmembers, hmatches⟩ :=
      matches_toSnapshot env c template parts hnormalized (p.link env ctxId)
    exact verifyAgainstBody_prepared env c template producer p embedded artifactIdHash
      taskIdHash contextIdHash partsDigest hprepared hprotocol hcompleted hchrono hround ctxId lineageId now
      status _ members hmembers
      (linkOf_toSnapshot _ _) hmatches (by simp) (by simp)
  · intro fmt hjcs body status status' held held' policy policy' verdict verdict' hvalid hvalid' hlink
      hverify hverify'
    obtain ⟨link, record, salt, members, parts, id, partsDigest, idDigest, hpublished, hrecord, hsalt,
      hmembers, hparts, hdigest, hlookup, hid, hidDigest, hidLookup⟩ :=
        verifyAgainstBody_ok env body status held policy verdict hverify
    obtain ⟨link', record', salt', members', parts', id', partsDigest', idDigest', hpublished',
      hrecord', hsalt', hmembers', hparts', hdigest', hlookup', hid', hidDigest', hidLookup'⟩ :=
      verifyAgainstBody_ok env body status' held' policy' verdict' hverify'
    refine ⟨parts, id, parts', id', ?_, ?_, ?_⟩
    · rw [heldContent, hmembers, Option.bind_some, hparts, hid]
      rfl
    · rw [heldContent, hmembers', Option.bind_some, hparts', hid']
      rfl
    · intro hsha
      have hlinks : publishedLink held = publishedLink held' := by
        rw [publishedLink, publishedLink, hlink]
      obtain rfl := Except.ok.inj (hpublished.symm.trans (hlinks.trans hpublished'))
      obtain rfl := Except.ok.inj (hsalt.symm.trans hsalt')
      obtain rfl := Except.ok.inj (hrecord.symm.trans hrecord')
      obtain rfl := Json.str.inj (Option.some.inj (hlookup.symm.trans hlookup'))
      obtain rfl := Json.str.inj (Option.some.inj (hidLookup.symm.trans hidLookup'))
      rw [Json.asObject_eq_some_iff] at hmembers hmembers'
      constructor
      · exact same_of_callHash env fmt hjcs _ _ _
          (heldParts_valid env _ members parts (hmembers ▸ hvalid) hparts)
          (heldParts_valid env _ members' parts' (hmembers' ▸ hvalid') hparts') (hsha _).1 partsDigest
          hdigest hdigest'
      · exact same_of_callHash env fmt hjcs _ (.str id) (.str id') trivial trivial (hsha _).2 idDigest
          hidDigest hidDigest'

section Sample

def agentSha256 (bytes : List UInt8) : Merkle.Digest :=
  match bytes with
  | 123 :: _ =>
    #v[189, 151, 123, 173, 87, 214, 169, 69, 142, 78, 18, 133, 99, 155, 145, 232, 227, 60, 77, 224, 177, 214,
      103, 145, 82, 7, 177, 131, 6, 159, 250, 201]
  | _ => match bytes.length with
    | 36 =>
      #v[161, 41, 102, 219, 0, 9, 237, 73, 136, 131, 35, 191, 129, 90, 145, 118, 30, 61, 55, 184,
        113, 245, 61, 158, 174, 219, 125, 233, 203, 200, 236, 27]
    | 37 =>
      #v[26, 239, 6, 192, 36, 164, 89, 115, 9, 134, 139, 82, 238, 59, 215, 162, 149, 34, 30, 70, 16,
        200, 202, 164, 9, 157, 174, 133, 117, 143, 187, 47]
    | 39 =>
      #v[57, 99, 162, 110, 38, 1, 221, 225, 159, 62, 176, 151, 58, 43, 50, 233, 234, 57, 91, 148,
        182, 225, 139, 143, 169, 50, 105, 153, 224, 38, 71, 181]
    | _ =>
      #v[155, 179, 119, 196, 249, 237, 236, 108, 36, 71, 35, 140, 86, 53, 100, 100, 64, 25, 83, 211,
        159, 208, 164, 94, 255, 103, 195, 120, 98, 136, 66, 52]

def wideEncode (bytes : List UInt8) : String :=
  String.ofList (bytes.map (fun b => Char.ofNat (b.toNat + 256)))

def wideDecode (s : String) : Except String (List UInt8) :=
  .ok (s.toList.map (fun c => UInt8.ofNat (c.toNat - 256)))

def metadataText : String :=
  "\x7b\"acdp:a2a\":\x7b\"a2a_protocol_version\":\"1.0\"," ++
  "\"artifact_id_hash\":\"sha256:a12966db0009ed49888323bf815a91761e3d37b871f53d9eaedb7de9cbc8ec1b\"," ++
  "\"completed_at\":\"2026-01-01T00:00:00.000Z\"," ++
  "\"context_id_hash\":\"sha256:3963a26e2601dde19f3eb0973a2b32e9ea395b94b6e18b8fa9326999e02647b5\"," ++
  "\"embedded\":false," ++
  "\"parts_hash\":\"sha256:9bb377c4f9edec6c2447238c56356464401953d39fd0a45eff67c37862884234\"," ++
  "\"record_version\":\"acdp-a2a-artifact/1\",\"salted\":true," ++
  "\"task_id_hash\":\"sha256:1aef06c024a4597309868b52ee3bd7a295221e4610c8caa4099dae85758fbb2f\"\x7d\x7d"

def contentText : String :=
  "\x7b\"acdp_version\":\"0.5.0\",\"agent_id\":\"did:web:agent.example\",\"contributors\":[]," ++
  "\"data_refs\":[],\"derived_from\":[],\"metadata\":" ++ metadataText ++
  ",\"supersedes\":null,\"title\":\"A2A artifact\"," ++
  "\"type\":\"analysis\",\"version\":1,\"visibility\":\"private\"\x7d"

def helloCanonicalize : Json → Except AcdpError (List UInt8)
  | .obj (("acdp:a2a", _) :: _) => .ok (utf8 metadataText)
  | .obj (("version", _) :: _) => .ok (utf8 contentText)
  | v => Jcs.tryCanonicalizeValue (fun _ => Jcs.one) v

def agentEnv (canonicalize : Json → Except AcdpError (List UInt8)) : A2aEnv :=
  { sampleSaltEnv canonicalize agentSha256 with
    lenientDecode := wideDecode
    standardEncode := wideEncode }

theorem wide_char (b : UInt8) : (Char.ofNat (b.toNat + 256)).toNat = b.toNat + 256 := by
  have hb := b.toNat_lt
  have hvalid : (b.toNat + 256).isValidChar := Or.inl (by omega)
  rw [Char.ofNat, dif_pos hvalid]
  rfl

variable (canonicalize : Json → Except AcdpError (List UInt8))

theorem agentEnv_base64 : Base64Laws (agentEnv canonicalize) := by
  refine ⟨fun bytes => ?_, fun bytes c hc => ?_⟩
  · change wideDecode (wideEncode bytes) = .ok bytes
    rw [wideDecode, wideEncode, String.toList_ofList, List.map_map]
    congr 1
    rw [List.map_congr_left (g := id), List.map_id]
    intro b _
    simp [wide_char]
  · change c ∈ (wideEncode bytes).toList at hc
    rw [wideEncode, String.toList_ofList] at hc
    obtain ⟨b, -, rfl⟩ := List.mem_map.mp hc
    have hwide := wide_char b
    constructor <;> intro heq <;> rw [heq] at hwide <;> simp at hwide

def agentProducer : Producer where
  signContentHash := fun _ => ("ed25519",
    "ZnoI54/wszZPhZoGBSQ4rWt2mNeoAGA7R6DL4BARL7sCVVZPJhsdwy9gbbP9ftrkpUk0gaWFPj24yMLtWEyfBA==")
  agentId := "did:web:agent.example"
  keyId := "did:web:agent.example#k"
  keyAttestation := none

def helloPart : Json := .obj [("text", .str "hi")]

def spelledPart : Json := .obj [("text", .str "hi"), ("filename", .str ""), ("url", .null)]

def helloChunk : Json :=
  .obj [("artifact", .obj [("artifactId", .str "a1"), ("parts", .arr [spelledPart])]),
    ("lastChunk", .bool true)]

def helloCompletion : Completion where
  a2aProtocolVersion := "1.0"
  taskId := "t-1"
  contextId := "ctx-1"
  artifact := ⟨"a1", none, none, none, [helloPart], none⟩
  completedAt := stamp
  derivedFrom := []
  previous := none
  mapUrlParts := true
  urlContents := ∅
  a2aArtifactHash := none

def helloRecord : List (String × Json) :=
  [("record_version", .str recordVersion), ("a2a_protocol_version", .str "1.0"),
    ("artifact_id_hash", .str "sha256:a12966db0009ed49888323bf815a91761e3d37b871f53d9eaedb7de9cbc8ec1b"),
    ("task_id_hash", .str "sha256:1aef06c024a4597309868b52ee3bd7a295221e4610c8caa4099dae85758fbb2f"),
    ("context_id_hash", .str "sha256:3963a26e2601dde19f3eb0973a2b32e9ea395b94b6e18b8fa9326999e02647b5"),
    ("parts_hash", .str "sha256:9bb377c4f9edec6c2447238c56356464401953d39fd0a45eff67c37862884234"),
    ("salted", .bool true), ("embedded", .bool false), ("completed_at", .str stampText)]

def helloBuilder : RequestBuilder :=
  (bodySetters helloCompletion (.new .analysis) [] [(recordKey, .obj helloRecord)]).foldl Setter.apply
    (start helloCompletion)

def helloRequest : PublishRequest :=
  helloBuilder.request agentProducer defaultTitle .analysis 1
    "sha256:bd977bad57d6a9458e4e1285639b91e8e33c4de0b1d667915207b183069ffac9"

def helloPrepared : Prepared where
  request := helloRequest
  salt := zeroSalt
  idempotencyKey := "acdp-a2a-" ++ trimStartMatches "sha256:" helloRequest.contentHash
  external := none

def helloEnv : A2aEnv := agentEnv helloCanonicalize

def helloCtxId : CtxId := "acdp://registry.example/6b1e3f0a-8d2c-4c55-9f3e-0a7d5c1b2e44"

example : helloCtxId.authority = "registry.example" := by decide +kernel

theorem helloRecord_built :
    buildRecord helloEnv helloCompletion (.new .analysis) zeroSalt true false = .ok helloRecord := by
  decide +kernel

theorem helloContent_hashed :
    computeContentHash helloEnv.toEnv
      (.obj (helloBuilder.producerContent helloEnv.toWireEnv agentProducer defaultTitle
      .analysis 1)) = .ok "sha256:bd977bad57d6a9458e4e1285639b91e8e33c4de0b1d667915207b183069ffac9" := by
  decide +kernel

theorem helloRequest_valid : Validation.validatePublishRequest helloEnv.toPublishEnv helloRequest =
    .ok () := by
  decide +kernel

theorem helloRequest_built : helloBuilder.build helloEnv.toPublishEnv agentProducer = .ok helloRequest :=
  helloBuilder.build_of_valid helloEnv.toPublishEnv agentProducer defaultTitle .analysis 1 _ rfl rfl rfl
    (by decide) (by decide) helloContent_hashed helloRequest_valid

theorem hello_prepared :
    prepare helloEnv agentProducer helloCompletion (.new .analysis) .never (.ok zeroSalt) =
      .ok helloPrepared := by
  have hrecord := helloRecord_built
  have hrequest := helloRequest_built
  rw [helloBuilder] at hrequest
  have hmetadata : insertMember (BodyTemplate.new .analysis).metadata recordKey (.obj helloRecord) =
      [(recordKey, .obj helloRecord)] := rfl
  have hrefs : (if helloCompletion.mapUrlParts = true then
      helloCompletion.artifact.parts.filterMap (urlRef helloCompletion) else []) = [] := by
    decide
  rw [prepare, if_neg (by decide), if_neg (by decide), if_neg (by decide)]
  simp only [partsRef, bind, Except.bind, Option.isSome_none, Bool.not_false]
  rw [if_neg (by decide)]
  simp only [hrecord, hmetadata, hrefs, Option.toList_none, List.map_nil, List.append_nil, hrequest]
  rfl

theorem hello_assembled :
    helloCompletion.artifact ∈ (TaskAssembly.after helloEnv "t-1" "ctx-1" [.chunk helloChunk]).artifacts := by
  decide +kernel

theorem spelledPart_same : normalizePart helloEnv spelledPart = normalizePart helloEnv helloPart := by
  decide +kernel

theorem PreparedFrom.of_canonicalize_eq (canonicalize' : Json → Except AcdpError (List UInt8))
    (hstr : ∀ s, canonicalize (.str s) = canonicalize' (.str s))
    (harr : ∀ items, canonicalize (.arr items) = canonicalize' (.arr items)) (producer : Producer)
    (c : Completion) (template : BodyTemplate) (p : Prepared) (embedded : Bool)
    (artifactIdHash taskIdHash contextIdHash partsDigest : String)
    (h : PreparedFrom (agentEnv canonicalize) producer c template p embedded artifactIdHash taskIdHash
      contextIdHash partsDigest) :
    PreparedFrom (agentEnv canonicalize') producer c template p embedded artifactIdHash taskIdHash
      contextIdHash partsDigest := by
  have hid (id : String) (salt : Salt) :
      idHash (agentEnv canonicalize') id salt = idHash (agentEnv canonicalize) id salt := by
    change (canonicalize' (.str id) >>= _) = canonicalize (.str id) >>= _
    rw [hstr]
    rfl
  have hparts (parts : List Json) (salt : Option Salt) :
      partsHash (agentEnv canonicalize') parts salt = partsHash (agentEnv canonicalize) parts salt := by
    change (canonicalize' (.arr parts) >>= _) = canonicalize (.arr parts) >>= _
    rw [harr]
    rfl
  exact ⟨(hid _ _).trans h.artifactId, (hid _ _).trans h.taskId, (hid _ _).trans h.contextId,
    (hparts _ _).trans h.parts, h.agentId, h.metadata⟩

def jcsEnv : A2aEnv := agentEnv (Jcs.tryCanonicalizeValue (fun _ => Jcs.one))

def helloHeld (part : Json) (taskId contextId : Option String) : HeldArtifact :=
  ⟨{ helloCompletion.artifact with parts := [part] }.toSnapshot
    (some (helloPrepared.link jcsEnv helloCtxId)), taskId, contextId⟩

theorem helloHeld_verifies (part : Json) (hpart : normalizePart jcsEnv part = .ok helloPart)
    (taskId contextId : Option String) (htask : ∀ i ∈ taskId, i = "t-1")
    (hcontext : ∀ i ∈ contextId, i = "ctx-1") (status : Option Status) :
    verifyAgainstBody jcsEnv
      (Body.fromPublishRequest helloRequest helloCtxId "" (CtxId.authority helloCtxId) stamp) status
      (helloHeld part taskId contextId) ⟨.deferToCaller, none⟩ =
        .ok ⟨helloCtxId, agentProducer.agentId, status, taskId.isSome, contextId.isSome⟩ := by
  obtain ⟨-, embedded, artifactIdHash, taskIdHash, contextIdHash, partsDigest, hprepared⟩ :=
    prepare_ok helloEnv agentProducer helloCompletion (.new .analysis) .never (.ok zeroSalt) helloPrepared
      hello_prepared
  have hparts : normalizeParts jcsEnv [part] = .ok helloCompletion.artifact.parts :=
    (normalizeParts_ok_iff jcsEnv _ _).mpr (.cons hpart .nil)
  obtain ⟨members, hmembers, hmatches⟩ :=
    matches_toSnapshot jcsEnv helloCompletion (.new .analysis) [part] hparts
      (helloPrepared.link jcsEnv helloCtxId)
  exact verifyAgainstBody_prepared jcsEnv helloCompletion (.new .analysis) agentProducer
    helloPrepared embedded artifactIdHash taskIdHash contextIdHash partsDigest
    (PreparedFrom.of_canonicalize_eq helloCanonicalize (Jcs.tryCanonicalizeValue (fun _ => Jcs.one))
      (fun _ => rfl) (fun _ => rfl) _ _ _ _ _ _ _ _ _ hprepared) (by decide) stamp_inYears
    (sampleSaltEnv_chrono _ agentSha256) (zeroSalt_roundTrips _ agentSha256) helloCtxId "" stamp status
    (helloHeld part taskId contextId) members hmembers (linkOf_toSnapshot _ _) hmatches htask hcontext

theorem helloHeld_content (part : Json) (hpart : normalizePart jcsEnv part = .ok helloPart)
    (taskId contextId : Option String) :
    heldContent jcsEnv (helloHeld part taskId contextId).artifact = some ([helloPart], "a1") := by
  have hparts : normalizeParts jcsEnv [part] = .ok helloCompletion.artifact.parts :=
    (normalizeParts_ok_iff jcsEnv _ _).mpr (.cons hpart .nil)
  obtain ⟨members, hmembers, hmatches⟩ :=
    matches_toSnapshot jcsEnv helloCompletion (.new .analysis) [part] hparts
      (helloPrepared.link jcsEnv helloCtxId)
  rw [heldContent, helloHeld, hmembers, Json.asObject, Option.bind_some, hmatches.parts, hmatches.artifactId]
  rfl

theorem spelledPart_normalized : normalizePart jcsEnv spelledPart = .ok helloPart := by
  decide +kernel

theorem helloPart_normalized : normalizePart jcsEnv helloPart = .ok helloPart := by
  decide +kernel

theorem helloPart_valid : helloPart.Valid Jcs.NumberValid := by
  simp [helloPart, Json.Valid, Json.ValidMembers]

theorem spelledPart_valid : spelledPart.Valid Jcs.NumberValid := by
  simp [spelledPart, Json.Valid, Json.ValidMembers]

theorem helloHeld_valid (part : Json) (taskId contextId : Option String)
    (hpart : part.Valid Jcs.NumberValid) :
    (helloHeld part taskId contextId).artifact.Valid Jcs.NumberValid := by
  simp [helloHeld, AssembledArtifact.toSnapshot, AssembledArtifact.snapshotMetadata, helloCompletion,
    Json.optional, insertMember, Prepared.link, published, Json.Valid, Json.ValidMembers,
    Json.ValidItems, hpart]

theorem hello_verifies : (∃ p,
    prepare helloEnv agentProducer helloCompletion (.new .analysis) .never (.ok zeroSalt) = .ok p ∧
      verifyAgainstBody helloEnv
        (Body.fromPublishRequest p.request helloCtxId "" (CtxId.authority helloCtxId) stamp) none
        ⟨{ helloCompletion.artifact with parts := [spelledPart] }.toSnapshot
          (some (p.link helloEnv helloCtxId)), some helloCompletion.taskId,
            some helloCompletion.contextId⟩ ⟨.deferToCaller, none⟩ =
        .ok ⟨helloCtxId, agentProducer.agentId, none, true, true⟩) ∧
    ∃ parts id parts' id',
      heldContent jcsEnv (helloHeld spelledPart (some "t-1") (some "ctx-1")).artifact = some (parts, id) ∧
      heldContent jcsEnv (helloHeld helloPart none none).artifact = some (parts', id') ∧
      (Json.arr parts).Same (Jcs.SameNumber (fun _ => Jcs.one)) (.arr parts') ∧ id = id' := by
  constructor
  · refine ⟨helloPrepared, hello_prepared, ?_⟩
    exact (published_artifact_verifies helloEnv (agentEnv_base64 _)
      (sampleSaltEnv_chrono helloCanonicalize agentSha256)).1 "t-1" "ctx-1"
      [.chunk helloChunk] agentProducer helloCompletion (.new .analysis) .never (.ok zeroSalt) helloPrepared
      hello_assembled (by decide) stamp_inYears hello_prepared
      (zeroSalt_roundTrips helloCanonicalize agentSha256) helloCtxId "" stamp none
      [spelledPart] (.cons spelledPart_same .nil)
  · obtain ⟨parts, id, parts', id', hheld, hheld', hbound⟩ :=
      (published_artifact_verifies jcsEnv (agentEnv_base64 _) (sampleSaltEnv_chrono _ agentSha256)).2
        (fun _ => Jcs.one) rfl _ none (some .superseded) (helloHeld spelledPart (some "t-1") (some "ctx-1"))
        (helloHeld helloPart none none) _ _ _ _ (helloHeld_valid _ _ _ spelledPart_valid)
        (helloHeld_valid _ _ _ helloPart_valid) ((linkOf_toSnapshot _ _).trans (linkOf_toSnapshot _ _).symm)
        (helloHeld_verifies spelledPart spelledPart_normalized (some "t-1") (some "ctx-1") (by simp) (by simp)
          none)
        (helloHeld_verifies helloPart helloPart_normalized none none (by simp) (by simp) (some .superseded))
    refine ⟨parts, id, parts', id', hheld, hheld', hbound fun salt => ?_⟩
    obtain ⟨rfl, rfl⟩ := Prod.mk.inj (Option.some.inj
      (hheld.symm.trans (helloHeld_content spelledPart spelledPart_normalized _ _)))
    obtain ⟨rfl, rfl⟩ := Prod.mk.inj (Option.some.inj
      (hheld'.symm.trans (helloHeld_content helloPart helloPart_normalized _ _)))
    exact ⟨fun bytes bytes' h h' _ => Except.ok.inj (h.symm.trans h'),
      fun bytes bytes' h h' _ => Except.ok.inj (h.symm.trans h')⟩

end Sample

end Acdp.A2a
