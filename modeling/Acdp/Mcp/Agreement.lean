import Acdp.Mcp.Relay
import Acdp.Mcp.Verify
import Acdp.Types.ClosedRoundTrip
import Acdp.Types.Members

namespace Acdp.Mcp

open Acdp.Types
open Acdp.Crypto
open Acdp.Producer
open Acdp.Provenance
open Acdp.Foundation.Entries

structure Proxy (env : SaltEnv) where
  producer : Producer
  transport : Transport
  descriptor : Json
  descriptorHash : String
  hashed : endpointHash env descriptor = .ok descriptorHash

def Proxy.identify {env : SaltEnv} (proxy : Proxy env) (server : ServerIdentity) : ServerIdentity :=
  { server with transport := proxy.transport, endpointHash := proxy.descriptorHash }

structure Named (server : ServerIdentity) (call : ToolCall) : Prop where
  name : server.name ≠ ""
  version : server.version ≠ some ""
  protocolVersion : server.protocolVersion ≠ ""
  tool : call.tool ≠ ""

section Attach

variable (result : List (String × Json)) (value : Json)

theorem lookup_attach (k : String) (hk : k ≠ "_meta") :
    (attach result value).1.lookup k = result.lookup k := by
  rw [attach]
  split
  · rw [lookup_insertMember, if_neg hk]
  · split
    · rfl
    · rw [lookup_insertMember, if_neg hk]
  · rfl

theorem hashedResult_attach : hashedResult (attach result value).1 = hashedResult result := by
  rw [hashedResult, hashedResult]
  simp only [List.filterMap_cons, lookup_attach result value _ (show "content" ≠ "_meta" by decide),
    lookup_attach result value _ (show "structuredContent" ≠ "_meta" by decide),
    lookup_attach result value _ (show "isError" ≠ "_meta" by decide), List.filterMap_nil]

theorem isErrorOf_attach : isErrorOf (attach result value).1 = isErrorOf result := by
  rw [isErrorOf, isErrorOf, lookup_attach result value "isError" (by decide)]

end Attach

section Record

variable (env : SaltEnv) (server : ServerIdentity) (call : ToolCall)

theorem boundedStr_optional (value : Option String) (max : ℕ) (hmax : 0 < max) :
    ¬ ((value.map (fun v => Json.str (truncate v max))).isSome = true ∧
      ¬ boundedStr (value.map (fun v => .str (truncate v max))) max = true) ↔ value ≠ some "" := by
  cases value with
  | none => simp
  | some v =>
    rw [Option.map_some, boundedStr_truncate v max hmax]
    simp

theorem checkServer_ok_iff (hhash : isHash (.str server.endpointHash) = true) :
    checkServer (serverMembers server) = .ok () ↔ server.name ≠ "" ∧ server.version ≠ some "" := by
  have hkeys : checkKeys "server" serverKeys (serverMembers server) = .ok () := by
    unfold serverMembers
    cases server.version <;> rfl
  have hname : (serverMembers server).lookup "name" = some (.str (truncate server.name maxServerName)) := rfl
  have hversion : (serverMembers server).lookup "version" =
      server.version.map (fun v => .str (truncate v maxServerVersion)) := by
    unfold serverMembers
    cases server.version <;> rfl
  have htransport : ((serverMembers server).lookup "transport").bind Json.asStr =
      some server.transport.wire := by
    unfold serverMembers
    cases server.version <;> rfl
  have hendpoint : (serverMembers server).lookup "endpoint_hash" = some (.str server.endpointHash) := by
    unfold serverMembers
    cases server.version <;> rfl
  have hwire : server.transport.wire ∈ ["stdio", "streamable-http", "sse"] := by
    cases server.transport <;> decide
  rw [checkServer, seq_ok_iff]
  simp only [guard_ok_iff, ite_error_ok_iff, hkeys, hname, hversion, htransport, hendpoint,
    Option.any_some, hhash, decide_eq_true hwire, not_true_eq_false, not_false_eq_true, true_and,
    and_true, not_not]
  rw [show (256 : ℕ) = maxServerName from rfl, boundedStr_truncate _ _ (by decide),
    show (128 : ℕ) = maxServerVersion from rfl, boundedStr_optional _ _ (by decide)]

theorem checkMembers_ok_iff (salt : Option Salt) (embedded : Bool) (argumentsHash resultHash : String)
    (idHash : Option String) (hserver : isHash (.str server.endpointHash) = true)
    (harguments : isHash (.str argumentsHash) = true) (hresult : isHash (.str resultHash) = true)
    (hid : ∀ h, idHash = some h → isHash (.str h) = true) (htool : call.tool.length ≤ maxTool)
    (hstarted : isTimestamp (.str (env.fmtRfc3339Ms call.startedAt.truncMs)) = true)
    (hcompleted : isTimestamp (.str (env.fmtRfc3339Ms call.completedAt.truncMs)) = true) :
    checkMembers (recordMembers env server call salt embedded argumentsHash resultHash idHash) = .ok () ↔
      Named server call := by
  generalize hrecord : recordMembers env server call salt embedded argumentsHash resultHash idHash = record
  have hkeys : checkKeys "record" recordKeys record = .ok () := by
    rw [← hrecord, recordMembers]
    cases idHash <;> rfl
  have hversion : (record.lookup "record_version").bind Json.asStr = some recordVersion := by
    rw [← hrecord]
    rfl
  have hprotocol : record.lookup "mcp_protocol_version" =
      some (.str (truncate server.protocolVersion maxProtocolVersion)) := by
    rw [← hrecord]
    rfl
  have hnamed : record.lookup "tool" = some (.str call.tool) := by
    rw [← hrecord]
    rfl
  have hhashes : ∀ k ∈ ["arguments_hash", "result_hash"], (record.lookup k).any isHash = true := by
    rw [← hrecord]
    simpa [recordMembers, List.lookup_cons] using ⟨harguments, hresult⟩
  have hidHash : (record.lookup "request_id_hash").any (fun v => !isHash v) = false := by
    rw [← hrecord, recordMembers]
    cases hcase : idHash with
    | none => rfl
    | some h => simp [List.lookup_cons, Json.optional, hid h hcase]
  have hflags : ∀ k ∈ ["is_error", "salted", "embedded"], (record.lookup k).any isBoolean = true := by
    rw [← hrecord, recordMembers]
    cases idHash <;> simp [List.lookup_cons, Json.optional, isBoolean, Json.asBool]
  have htimes : ∀ k ∈ ["started_at", "completed_at"], (record.lookup k).any isTimestamp = true := by
    rw [← hrecord, recordMembers]
    cases idHash <;> simp [List.lookup_cons, Json.optional, hstarted, hcompleted]
  have hobject : (record.lookup "server").bind Json.asObject = some (serverMembers server) := by
    rw [← hrecord]
    rfl
  have htoolBound : boundedStr (some (.str call.tool)) 256 = true ↔ call.tool ≠ "" := by
    rw [boundedStr, Option.bind_some, Json.asStr, Option.any_some, Bool.and_eq_true, decide_eq_true_eq,
      decide_eq_true_eq, ne_eq, ← String.length_eq_zero_iff]
    rw [maxTool] at htool
    omega
  rw [checkMembers]
  simp only [seq_ok_iff, guard_ok_iff, checkEach_ok_iff, hkeys, hversion, hprotocol, hnamed, hidHash, hobject,
    ne_eq, not_true_eq_false, not_false_eq_true, true_and, Bool.false_eq_true, not_not, htoolBound,
    checkServer_ok_iff server hserver]
  rw [show (64 : ℕ) = maxProtocolVersion from rfl, boundedStr_truncate _ _ (by decide)]
  constructor
  · rintro ⟨hprotocol, htool, -, -, -, hname, hversion⟩
    exact ⟨hname, hversion, hprotocol, htool⟩
  · rintro ⟨hname, hversion, hprotocol, htool⟩
    exact ⟨hprotocol, htool, hhashes, hflags, htimes, hname, hversion⟩

end Record

section Prepared

variable (env : SaltEnv) (producer : Producer) (server : ServerIdentity) (call : ToolCall)
    (opts : BodyOptions)

structure PreparedFrom (p : Prepared) (embedded : Bool) (argumentsHash resultHash : String)
    (idHash : Option String) : Prop where
  tool : call.tool.length ≤ maxTool
  arguments : callHash env call.arguments p.salt = .ok argumentsHash
  result : callHash env (hashedResult call.result) p.salt = .ok resultHash
  requestId : requestIdHash env call p.salt = .ok idHash
  agentId : p.request.agentId = producer.agentId
  contextType : p.request.contextType = .custom contextType
  metadata : p.request.metadata =
    some (.obj (recordMembers env server call p.salt embedded argumentsHash resultHash idHash))

theorem bodySetters_metadata (dataRefs : List DataRef) (record : List (String × Json)) :
    ((bodySetters server call opts dataRefs record).foldl Setter.apply RequestBuilder.new).metadata =
        some (.obj record) ∧
      ((bodySetters server call opts dataRefs record).foldl Setter.apply RequestBuilder.new).contextType =
        some (.custom contextType) := by
  unfold bodySetters
  split
  · exact ⟨rfl, rfl⟩
  · exact ⟨rfl, rfl⟩

theorem prepare_ok (freshSalt : Except AcdpError Salt) (p : Prepared)
    (h : prepare env producer server call opts freshSalt = .ok p) :
    ∃ embedded argumentsHash resultHash idHash, drawSalt embedded freshSalt = .ok p.salt ∧
      PreparedFrom env producer server call p embedded argumentsHash resultHash idHash := by
  rw [prepare] at h
  obtain ⟨ref, -, h⟩ := bind_ok _ _ _ h
  obtain ⟨salt, hsalt, h⟩ := bind_ok _ _ _ h
  rw [guard_ok_iff] at h
  obtain ⟨htool, h⟩ := h
  obtain ⟨argumentsHash, harguments, h⟩ := bind_ok _ _ _ h
  obtain ⟨resultHash, hresult, h⟩ := bind_ok _ _ _ h
  obtain ⟨idHash, hid, h⟩ := bind_ok _ _ _ h
  obtain ⟨request, hbuild, h⟩ := bind_ok _ _ _ h
  obtain rfl := Except.ok.inj h
  obtain ⟨title, ct, version, contentHash, -, htype, rfl⟩ := RequestBuilder.build_request _ _ _ _ hbuild
  obtain ⟨hmetadata, hcontext⟩ := bodySetters_metadata server call opts (ref.toList.map Prod.fst)
    (recordMembers env server call salt ref.isSome argumentsHash resultHash idHash)
  rw [hcontext] at htype
  exact ⟨ref.isSome, argumentsHash, resultHash, idHash, hsalt, not_lt.mp htool, harguments, hresult, hid, rfl,
    (Option.some.inj htype).symm, hmetadata⟩

theorem drawSalt_some (embedded : Bool) (freshSalt : Except AcdpError Salt) (s : Salt)
    (h : drawSalt embedded freshSalt = .ok (some s)) : freshSalt = .ok s := by
  rw [drawSalt] at h
  split at h
  · cases h
  · cases freshSalt with
    | error e => cases h
    | ok drawn =>
      obtain rfl := Option.some.inj (Except.ok.inj h)
      rfl

end Prepared

section Verified

variable (env : SaltEnv)

theorem bindLink_published (body : Body) (salt : Option Salt) (link : List (String × Json))
    (hauthority : body.originRegistry = CtxId.authority body.ctxId)
    (hlink : published env body.ctxId body.contentHash salt = .obj link) : bindLink body link = .ok () := by
  obtain rfl := Json.obj.inj hlink
  cases salt with
  | none => simp [bindLink, Json.optional, List.lookup_cons, Json.asStr, hauthority]
  | some s => simp [bindLink, Json.optional, List.lookup_cons, Json.asStr, hauthority]

theorem linkSalt_published (ctxId : CtxId) (contentHash : ContentHash) (salt : Option Salt)
    (record link : List (String × Json)) (hlink : published env ctxId contentHash salt = .obj link)
    (hsalted : record.lookup "salted" = some (.bool salt.isSome))
    (hround : ∀ s, salt = some s → Salt.RoundTrips env s) : linkSalt env record link = .ok salt := by
  obtain rfl := Json.obj.inj hlink
  cases salt with
  | none => simp [linkSalt, Json.optional, List.lookup_cons, hsalted]
  | some s =>
    have hdecode := Salt.fromBase64url_toBase64url env s (hround s rfl)
    simp [linkSalt, Json.optional, List.lookup_cons, Json.asStr, hsalted, hdecode]

theorem hashOrPanic_ok (value : Json) (salt : Option Salt) (hash : String)
    (h : callHash env value salt = .ok hash) : hashOrPanic env value salt = .ok hash := by
  rw [hashOrPanic, h]

def heldCall (call : ToolCall) (link : Json) : HeldCall where
  tool := call.tool
  result := (attach call.result link).1
  arguments := some call.arguments
  requestId := call.requestId

variable (producer : Producer) (server : ServerIdentity) (call : ToolCall) (p : Prepared) (embedded : Bool)
  (argumentsHash resultHash : String) (idHash : Option String) (link : Json)

theorem matchResult_ok
    (h : PreparedFrom env producer server call p embedded argumentsHash resultHash idHash) :
    matchResult env (recordMembers env server call p.salt embedded argumentsHash resultHash idHash) p.salt
      (heldCall call link) = .ok () := by
  have herror : (recordMembers env server call p.salt embedded argumentsHash resultHash idHash).lookup
    "is_error" = some (.bool (isErrorOf call.result)) := by
    unfold recordMembers
    cases idHash <;> rfl
  rw [matchResult, heldCall, hashedResult_attach, isErrorOf_attach, hashOrPanic_ok env _ _ _ h.result, herror]
  simp [recordMembers, List.lookup_cons, bind, Except.bind]

theorem matchArguments_ok
    (h : PreparedFrom env producer server call p embedded argumentsHash resultHash idHash) :
    matchArguments env (recordMembers env server call p.salt embedded argumentsHash resultHash idHash) p.salt
      (heldCall call link) = .ok () := by
  rw [matchArguments, heldCall]
  dsimp only
  rw [hashOrPanic_ok env _ _ _ h.arguments]
  simp [recordMembers, List.lookup_cons, bind, Except.bind]

theorem matchRequestId_ok
    (h : PreparedFrom env producer server call p embedded argumentsHash resultHash idHash) :
    matchRequestId env (recordMembers env server call p.salt embedded argumentsHash resultHash idHash) p.salt
      (heldCall call link) = .ok () := by
  have hid := h.requestId
  rw [requestIdHash] at hid
  rw [matchRequestId, heldCall]
  cases hrequest : call.requestId with
  | none => rfl
  | some id =>
    rw [hrequest] at hid
    dsimp only at hid ⊢
    cases hhash : callHash env id p.salt with
    | error e =>
      rw [hhash] at hid
      cases hid
    | ok hash =>
      rw [hhash] at hid
      obtain rfl := Except.ok.inj hid
      have hlookup : (recordMembers env server call p.salt embedded argumentsHash resultHash
        (some hash)).lookup "request_id_hash" = some (.str hash) := rfl
      rw [hlookup]
      dsimp only
      rw [hashOrPanic_ok env _ _ _ hhash]
      simp [bind, Except.bind]

theorem trustedRecord_ok_iff
    (h : PreparedFrom env producer server call p embedded argumentsHash resultHash idHash) (ctxId : CtxId)
    (lineageId : LineageId) (originRegistry : String) (now : DateTime) (record : List (String × Json)) :
    trustedRecord (Body.fromPublishRequest p.request ctxId lineageId originRegistry now) [producer.agentId] =
        .ok record ↔
      checkMembers (recordMembers env server call p.salt embedded argumentsHash resultHash idHash) = .ok () ∧
        record = recordMembers env server call p.salt embedded argumentsHash resultHash idHash := by
  have hagent : (Body.fromPublishRequest p.request ctxId lineageId originRegistry now).agentId =
      producer.agentId :=
    h.agentId
  have htype : (Body.fromPublishRequest p.request ctxId lineageId originRegistry now).contextType =
      .custom contextType := h.contextType
  have hmetadata : (Body.fromPublishRequest p.request ctxId lineageId originRegistry now).metadata =
      some (.obj (recordMembers env server call p.salt embedded argumentsHash resultHash idHash)) :=
        h.metadata
  rw [trustedRecord, hagent, htype, hmetadata, if_neg (by simp), if_neg (by simp [ContextType.wire])]
  dsimp only
  rw [checkRecord, Json.asObject]
  dsimp only
  cases checkMembers (recordMembers env server call p.salt embedded argumentsHash resultHash idHash) with
  | error reason => simp
  | ok u => simp [eq_comm]

theorem requestIdHash_isHash (salt : Option Salt) (hash : String)
    (h : requestIdHash env call salt = .ok (some hash)) : isHash (.str hash) = true := by
  rw [requestIdHash] at h
  split at h
  · cases h
  next id _ =>
    cases hid : callHash env id salt with
    | error e =>
      rw [hid] at h
      cases h
    | ok value =>
      rw [hid] at h
      obtain rfl := Option.some.inj (Except.ok.inj h)
      exact callHash_isHash env id salt value hid

theorem verifyLink_ok_iff
    (h : PreparedFrom env producer server call p embedded argumentsHash resultHash idHash)
    (hserver : isHash (.str server.endpointHash) = true)
    (hchrono : ∀ t, InYears t → IsRfc3339Ms (env.fmtRfc3339Ms t)) (hstarted : InYears call.startedAt)
    (hcompleted : InYears call.completedAt) (hround : ∀ s, p.salt = some s → Salt.RoundTrips env s)
    (ctxId : CtxId)
    (lineageId : LineageId) (now : DateTime) :
    verifyLink env (Body.fromPublishRequest p.request ctxId lineageId (CtxId.authority ctxId) now)
        (published env ctxId p.request.contentHash p.salt) [producer.agentId]
        (heldCall call (published env ctxId p.request.contentHash p.salt)) = .ok () ↔ Named server call := by
  have hmembers := checkMembers_ok_iff env server call p.salt embedded argumentsHash resultHash idHash hserver
    (callHash_isHash env _ _ _ h.arguments) (callHash_isHash env _ _ _ h.result)
    (fun hash he => requestIdHash_isHash env call p.salt hash (he ▸ h.requestId)) h.tool
    (isTimestamp_of_rfc3339Ms _ (hchrono _ (truncMs_inYears _ hstarted)))
    (isTimestamp_of_rfc3339Ms _ (hchrono _ (truncMs_inYears _ hcompleted)))
  have hsalted : (recordMembers env server call p.salt embedded argumentsHash resultHash idHash).lookup
    "salted" = some (.bool p.salt.isSome) := by
    unfold recordMembers
    cases idHash <;> rfl
  generalize hbody : Body.fromPublishRequest p.request ctxId lineageId (CtxId.authority ctxId) now = body
  have hctx : body.ctxId = ctxId := by rw [← hbody]; rfl
  have hhash : body.contentHash = p.request.contentHash := by rw [← hbody]; rfl
  have horigin : body.originRegistry = CtxId.authority body.ctxId := by rw [← hbody]; rfl
  have hrecord := trustedRecord_ok_iff env producer server call p embedded argumentsHash resultHash
    idHash h ctxId lineageId (CtxId.authority ctxId) now
  rw [hbody] at hrecord
  rw [← hctx, ← hhash]
  have hbound := bindLink_published env body p.salt _ horigin rfl
  have hlinkSalt := linkSalt_published env body.ctxId body.contentHash p.salt _ _ rfl hsalted hround
  rw [← hmembers, verifyLink, published, Json.asObject]
  dsimp only
  rw [seq_ok_iff]
  constructor
  · rintro ⟨-, hrest⟩
    obtain ⟨record, htrusted, -⟩ := bind_ok _ _ _ hrest
    exact ((hrecord record).mp htrusted).1
  · intro hchecked
    refine ⟨hbound, ?_⟩
    rw [(hrecord _).mpr ⟨hchecked, rfl⟩]
    change (linkSalt env _ _ >>= _) = _
    rw [hlinkSalt]
    change (matchResult env _ p.salt _ >>= _) = _
    rw [seq_ok_iff, seq_ok_iff]
    exact ⟨matchResult_ok env producer server call p embedded argumentsHash resultHash idHash _ h,
      matchArguments_ok env producer server call p embedded argumentsHash resultHash idHash _ h,
      matchRequestId_ok env producer server call p embedded argumentsHash resultHash idHash _ h⟩

end Verified

/-- Whatever the two sides send: a record that the proxy publishes for a call of the client verifies for
the holder of that call exactly when the server's name, its version, the protocol version and the tool's
name are not empty. -/
theorem published_record_verifies_iff (env : SaltEnv) (idKey : Json → String) (proxy : Proxy env)
    (hchrono : ∀ t, InYears t → IsRfc3339Ms (env.fmtRfc3339Ms t)) (messages : List Message) (m : Json)
    (completedAt : DateTime) (instant : ℕ) (call : ToolCall) (server : ServerIdentity)
    (hyield : (noteResponse idKey m completedAt instant (relay idKey messages)).1 = some (call, some server))
    (hstarted : InYears call.startedAt) (hcompleted : InYears call.completedAt) (opts : BodyOptions)
    (freshSalt : Except AcdpError Salt) (hround : ∀ s, freshSalt = .ok s → Salt.RoundTrips env s)
    (p : Prepared)
    (hprepare : prepare env proxy.producer (proxy.identify server) call opts freshSalt = .ok p) :
    ∃ sent result, SentBy messages sent ∧ (m.get "id").map idKey = some (idKey sent.id) ∧
      (m.get "result").bind Json.asObject = some result ∧ ∀ ctxId lineageId now,
        verifyLink env (Body.fromPublishRequest p.request ctxId lineageId (CtxId.authority ctxId) now)
          (published env ctxId p.request.contentHash p.salt) [proxy.producer.agentId]
          { tool := sent.tool
            result := (attach result (published env ctxId p.request.contentHash p.salt)).1
            arguments := some sent.arguments
            requestId := some sent.id } = .ok () ↔ Named server call := by
  obtain ⟨sent, result, hsent, hid, hresult, rfl⟩ :=
    noteResponse_yields idKey messages m completedAt instant call _ hyield
  refine ⟨sent, result, hsent, hid, hresult, fun ctxId lineageId now => ?_⟩
  obtain ⟨embedded, argumentsHash, resultHash, idHash, hdrawn, hprepared⟩ :=
    prepare_ok env proxy.producer (proxy.identify server) _ opts freshSalt p hprepare
  have hendpoint : isHash (.str (proxy.identify server).endpointHash) = true :=
    callHash_isHash env _ _ _ proxy.hashed
  have hsalt : ∀ s, p.salt = some s → Salt.RoundTrips env s := by
    intro s hs
    rw [hs] at hdrawn
    exact hround s (drawSalt_some embedded freshSalt s hdrawn)
  have hiff := verifyLink_ok_iff env proxy.producer (proxy.identify server) _ p embedded
    argumentsHash resultHash idHash hprepared hendpoint hchrono hstarted hcompleted hsalt ctxId lineageId now
  refine hiff.trans ?_
  exact ⟨fun h => ⟨h.name, h.version, h.protocolVersion, h.tool⟩,
    fun h => ⟨h.name, h.version, h.protocolVersion, h.tool⟩⟩

section Sample

def echoSha256 (bytes : List UInt8) : Merkle.Digest :=
  match bytes.length with
  | 35 =>
    #v[233, 140, 90, 17, 155, 112, 234, 53, 134, 138, 141, 178, 80, 52, 217, 23, 117, 168, 72,
      209, 126, 14, 109, 150, 162, 52, 34, 189, 154, 101, 46, 250]
  | 45 =>
    #v[100, 139, 89, 212, 144, 59, 204, 75, 233, 42, 85, 185, 187, 107, 103, 217, 180, 23, 69,
      13, 53, 99, 198, 233, 208, 167, 219, 253, 44, 173, 223, 76]
  | 73 =>
    #v[172, 62, 180, 215, 4, 72, 126, 170, 175, 59, 90, 73, 162, 23, 142, 221, 247, 75, 113, 42,
      252, 103, 161, 28, 235, 78, 207, 134, 185, 161, 83, 4]
  | 33 =>
    #v[78, 119, 207, 6, 234, 197, 207, 243, 250, 216, 213, 232, 17, 56, 221, 147, 235, 27, 229,
      20, 205, 58, 187, 217, 227, 120, 239, 169, 9, 167, 135, 59]
  | 977 =>
    #v[129, 241, 12, 159, 132, 83, 205, 250, 61, 149, 5, 64, 135, 48, 1, 229, 228, 65, 253, 222,
      54, 191, 75, 89, 174, 183, 177, 18, 107, 224, 38, 74]
  | _ =>
    #v[217, 223, 81, 2, 191, 242, 82, 101, 120, 5, 137, 81, 64, 2, 131, 173, 69, 176, 55, 180,
      250, 255, 63, 77, 248, 11, 248, 3, 82, 177, 202, 68]

def recordText (name : String) : String :=
  "\x7b\"arguments_hash\":\"sha256:648b59d4903bcc4be92a55b9bb6b67d9b417450d3563c6e9d0a7dbfd2caddf4c\"," ++
  "\"completed_at\":\"2026-01-01T00:00:00.000Z\",\"embedded\":false,\"is_error\":false," ++
  "\"mcp_protocol_version\":\"2025-06-18\",\"record_version\":\"acdp-mcp-tool-result/1\"," ++
  "\"request_id_hash\":\"sha256:4e77cf06eac5cff3fad8d5e81138dd93eb1be514cd3abbd9e378efa909a7873b\"," ++
  "\"result_hash\":\"sha256:ac3eb4d704487eaaaf3b5a49a2178eddf74b712afc67a11ceb4ecf86b9a15304\"," ++
  "\"salted\":true,\"server\":\x7b" ++
  "\"endpoint_hash\":\"sha256:e98c5a119b70ea35868a8db25034d91775a848d17e0e6d96a23422bd9a652efa\"," ++
  "\"name\":\"" ++ name ++ "\",\"transport\":\"stdio\"\x7d,\"started_at\":\"2026-01-01T00:00:00.000Z\"," ++
  "\"tool\":\"echo\"\x7d"

def contentText (name : String) : String :=
  "\x7b\"acdp_version\":\"0.5.0\",\"agent_id\":\"did:web:proxy.example\",\"contributors\":[]," ++
  "\"data_refs\":[],\"derived_from\":[],\"metadata\":" ++ recordText name ++
  ",\"schema_uri\":\"" ++ schemaUri ++
  "\",\"supersedes\":null,\"title\":\"MCP tool result: " ++ name ++
  "/echo\",\"type\":\"acdp:mcp-tool-result\"," ++
  "\"version\":1,\"visibility\":\"public\"\x7d"

def echoCanonicalize (name : String) : Json → Except AcdpError (List UInt8)
  | .obj (("record_version", _) :: _) => .ok (utf8 (recordText name))
  | .obj (("version", _) :: _) => .ok (utf8 (contentText name))
  | v => Jcs.tryCanonicalizeValue (fun _ => Jcs.one) v

def echoEnv (name : String) : SaltEnv := sampleSaltEnv (echoCanonicalize name) echoSha256

def echoDigest : String := "sha256:e98c5a119b70ea35868a8db25034d91775a848d17e0e6d96a23422bd9a652efa"

def echoProxy (name : String) : Proxy (echoEnv name) where
  producer := {
    signContentHash := fun hash => ("ed25519",
      if hash = "sha256:81f10c9f8453cdfa3d950540873001e5e441fdde36bf4b59aeb7b1126be0264a" then
        "tno8+cnSm69+SyD7ismsPTlD8Tul+47T2g2Nk6T8W9k/J+SOPeYtAA0xW+yTOIDPoEDbbI4XKjBR/xv41lKEAw=="
      else "fQgDlUQ9s6xzAAy+NhHPA4onCHENRAULSRn+SqrI0vyuVLo7NT9yv2slUfa4bClO/jmlK8XsT24+IGzs4VYyDw==")
    agentId := "did:web:proxy.example"
    keyId := "did:web:proxy.example#k"
    keyAttestation := none }
  transport := .stdio
  descriptor := stdioDescriptor "echo-server" [] []
  descriptorHash := echoDigest
  hashed := by
    change (Jcs.tryCanonicalizeValue (fun _ => Jcs.one) (stdioDescriptor "echo-server" [] []) >>= fun bytes =>
      pure (encodeSha256Hex (echoSha256 bytes))) = _
    decide +kernel

def displayId : Json → String
  | .num (.posInt n) => toString n
  | _ => ""

def idMember (n : UInt64) : String × Json := ("id", .num (.posInt n))

def echoSession (name : String) : List Message :=
  [.fromClient (.obj [idMember 0, ("method", .str "initialize")]) stamp,
    .fromServer (.obj [idMember 0, ("result", .obj [("protocolVersion", .str "2025-06-18"),
      ("serverInfo", .obj [("name", .str name)])])]) stamp 0,
    .fromClient (.obj [idMember 1, ("method", .str "tools/call"), ("params", .obj [("name", .str "echo"),
      ("arguments", .obj [("text", .str "hi")])])]) stamp]

def echoResult : List (String × Json) :=
  [("content", .arr [.obj [("type", .str "text"), ("text", .str "hi")]])]

def echoResponse : Json := .obj [idMember 1, ("result", .obj echoResult)]

def echoCall : PendingCall := ⟨"echo", .obj [("text", .str "hi")], .num (.posInt 1), stamp, none⟩

def echoServer (name : String) : ServerIdentity := identity (some ⟨name, none⟩) "2025-06-18"

def openOptions : BodyOptions := ⟨.public, [], .never⟩

def echoPrepare (name : String) : Except AcdpError Prepared :=
  prepare (echoEnv name) (echoProxy name).producer ((echoProxy name).identify (echoServer name))
    (completedCall echoCall echoResult stamp) openOptions (.ok zeroSalt)

def echoCtxId : CtxId := "acdp://registry.example/6b1e3f0a-8d2c-4c55-9f3e-0a7d5c1b2e44"

def echoVerdict (name : String) (p : Prepared) : Except LinkError Unit :=
  let link := published (echoEnv name) echoCtxId p.request.contentHash p.salt
  verifyLink (echoEnv name) (Body.fromPublishRequest p.request echoCtxId "" (CtxId.authority echoCtxId) stamp)
    link [(echoProxy name).producer.agentId]
    { tool := "echo"
      result := (attach echoResult link).1
      arguments := some (.obj [("text", .str "hi")])
      requestId := some (.num (.posInt 1)) }

theorem echo_yields (name : String) :
    (noteResponse displayId echoResponse stamp 0 (relay displayId (echoSession name))).1 =
      some (completedCall echoCall echoResult stamp, some (echoServer name)) := by
  rfl

theorem echo_sent (name : String) (sent : PendingCall) (h : SentBy (echoSession name) sent) :
    sent = echoCall := by
  obtain ⟨m, now, hm, hmethod, hid, hcall⟩ := h
  simp only [echoSession, List.mem_cons, Message.fromClient.injEq, reduceCtorEq, List.not_mem_nil, or_false,
    false_or] at hm
  rcases hm with ⟨rfl, rfl⟩ | ⟨rfl, rfl⟩
  · exact absurd hmethod (by decide)
  · rw [← Option.some.inj hid] at hcall
    exact (Option.some.inj hcall).symm

theorem named_server_verifies : ∃ p, echoPrepare "echo" = .ok p ∧ echoVerdict "echo" p = .ok () := by
  obtain ⟨p, hp⟩ := ok_of_isOk (echoPrepare "echo") (by decide +kernel)
  obtain ⟨sent, result, hsent, -, hresult, hiff⟩ := published_record_verifies_iff (echoEnv "echo") displayId
    (echoProxy "echo") (sampleSaltEnv_chrono (echoCanonicalize "echo") echoSha256) (echoSession "echo")
    echoResponse stamp 0 _ _ (echo_yields "echo") stamp_inYears stamp_inYears
    openOptions (.ok zeroSalt) (fun s hs => Except.ok.inj hs ▸ zeroSalt_roundTrips (echoCanonicalize "echo")
    echoSha256) p hp
  obtain rfl := echo_sent "echo" sent hsent
  obtain rfl := Option.some.inj hresult
  exact ⟨p, hp, (hiff echoCtxId "" stamp).mpr ⟨by decide, by decide, by decide, by decide⟩⟩

theorem unnamed_server_refused :
    (noteResponse displayId echoResponse stamp 0 (relay displayId (echoSession ""))).1 =
        some (completedCall echoCall echoResult stamp, some (echoServer "")) ∧
      ∃ p, echoPrepare "" = .ok p ∧ echoVerdict "" p ≠ .ok () := by
  obtain ⟨p, hp⟩ := ok_of_isOk (echoPrepare "") (by decide +kernel)
  obtain ⟨embedded, argumentsHash, resultHash, idHash, hdrawn, hprepared⟩ :=
    prepare_ok (echoEnv "") (echoProxy "").producer ((echoProxy "").identify (echoServer "")) _
      openOptions _ p hp
  have hsalt : ∀ s, p.salt = some s → Salt.RoundTrips (echoEnv "") s := fun s hs =>
    Except.ok.inj (drawSalt_some embedded _ s (hs ▸ hdrawn)) ▸
      zeroSalt_roundTrips (echoCanonicalize "") echoSha256
  have hiff := verifyLink_ok_iff (echoEnv "") (echoProxy "").producer
    ((echoProxy "").identify (echoServer "")) _ p embedded argumentsHash resultHash idHash hprepared
    (callHash_isHash _ _ _ _ (echoProxy "").hashed)
    (sampleSaltEnv_chrono (echoCanonicalize "") echoSha256) stamp_inYears stamp_inYears hsalt
    echoCtxId "" stamp
  exact ⟨echo_yields "", p, hp, fun hverdict => (hiff.mp hverdict).name rfl⟩

end Sample

end Acdp.Mcp
