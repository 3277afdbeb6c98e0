import Acdp.Types.Primitives

namespace Acdp.Types

structure Signature where
  algorithm : String
  keyId : String
  value : String
deriving DecidableEq, Repr

inductive DataRefType where
  | primaryResult
  | rawData
  | supportingInfo
  | derivedData
deriving DecidableEq, Repr

inductive Location where
  | uri (uri : String)
  | structured (members : List (String × Json))
deriving DecidableEq

inductive EmbeddedEncoding where
  | json
  | utf8
  | base64
deriving DecidableEq, Repr

structure EmbeddedContent where
  encoding : EmbeddedEncoding
  content : Json
  contentHash : Option ContentHash
deriving DecidableEq

structure DataRef where
  refType : DataRefType
  description : Option String
  sizeBytes : Option UInt64
  format : Option String
  schemaVersion : Option String
  contentHash : Option ContentHash
  location : Option Location
  embedded : Option EmbeddedContent
  extensions : List (String × Json)
deriving DecidableEq

structure AnchorEntry where
  scheme : String
  contentHash : ContentHash
  uri : Option String
  extensions : List (String × Json)
deriving DecidableEq

structure DataPeriod where
  start : DateTime
  «end» : DateTime
deriving DecidableEq, Repr

structure KeyAttestationRef where
  ctxId : CtxId
  contentHash : ContentHash
deriving DecidableEq, Repr

def KeyAttestationRef.toValue (r : KeyAttestationRef) : Json :=
  .obj [("ctx_id", .str r.ctxId), ("content_hash", .str r.contentHash)]

structure PublishRequest where
  version : UInt32
  supersedes : Option CtxId
  agentId : AgentDid
  contributors : List AgentDid
  title : String
  contextType : ContextType
  dataRefs : List DataRef
  derivedFrom : List CtxId
  visibility : Visibility
  contentHash : ContentHash
  signature : Signature
  audience : Option (List AgentDid)
  acdpVersion : Option String
  description : Option String
  summary : Option String
  lineageId : Option LineageId
  tags : Option (List String)
  domain : Option String
  expiresAt : Option DateTime
  dataPeriod : Option DataPeriod
  metadata : Option Json
  schemaUri : Option String
  anchors : Option (List AnchorEntry)
  keyAttestation : Option KeyAttestationRef
deriving DecidableEq

structure Body where
  ctxId : CtxId
  lineageId : LineageId
  originRegistry : String
  createdAt : DateTime
  contentHash : ContentHash
  signature : Signature
  version : UInt32
  supersedes : Option CtxId
  agentId : AgentDid
  contributors : List AgentDid
  title : String
  contextType : ContextType
  dataRefs : List DataRef
  derivedFrom : List CtxId
  visibility : Visibility
  audience : Option (List AgentDid)
  acdpVersion : Option String
  description : Option String
  summary : Option String
  tags : Option (List String)
  domain : Option String
  expiresAt : Option DateTime
  dataPeriod : Option DataPeriod
  metadata : Option Json
  schemaUri : Option String
  anchors : Option (List AnchorEntry)
  extensions : List (String × Json)
deriving DecidableEq

def keyAttestationField : String := "key_attestation"

def Body.fromPublishRequest (req : PublishRequest) (ctxId : CtxId) (lineageId : LineageId)
    (originRegistry : String) (createdAt : DateTime) : Body where
  ctxId := ctxId
  lineageId := lineageId
  originRegistry := originRegistry
  createdAt := createdAt.truncMs
  contentHash := req.contentHash
  signature := req.signature
  version := req.version
  supersedes := req.supersedes
  agentId := req.agentId
  contributors := req.contributors
  title := req.title
  contextType := req.contextType
  dataRefs := req.dataRefs
  derivedFrom := req.derivedFrom
  visibility := req.visibility
  audience := req.audience
  acdpVersion := req.acdpVersion
  description := req.description
  summary := req.summary
  tags := req.tags
  domain := req.domain
  expiresAt := req.expiresAt
  dataPeriod := req.dataPeriod
  metadata := req.metadata
  schemaUri := req.schemaUri
  anchors := req.anchors
  extensions := req.keyAttestation.toList.map (fun r => (keyAttestationField, r.toValue))

inductive LifecycleEventType where
  | retracted
  | republished
  | other (name : String)
deriving DecidableEq, Repr

structure LifecycleEvent where
  eventId : String
  ctxId : CtxId
  eventType : LifecycleEventType
  occurredAt : DateTime
  actor : AgentDid
  reason : Option String
  signature : Option Signature
deriving DecidableEq, Repr

def LifecycleEventType.effect : LifecycleEventType → Option Bool
  | .retracted => some true
  | .republished => some false
  | .other _ => none

def retractionState (events : List LifecycleEvent) : Bool :=
  (events.reverse.findSome? (·.eventType.effect)).getD false

structure EventReceipt where
  receiptType : String
  registryDid : String
  ctxId : CtxId
  eventId : String
  eventHash : String
  index : UInt64
  acceptedAt : DateTime
  signature : Signature
deriving DecidableEq, Repr

structure RegistryState where
  status : Status
  lifecycleEvents : Option (List LifecycleEvent)
  eventReceipts : Option (List EventReceipt)
  extensions : List (String × Json)
deriving DecidableEq

def RegistryState.isRetracted (state : RegistryState) : Bool :=
  state.lifecycleEvents.elim false retractionState

structure FullContext where
  body : Body
  registryState : RegistryState
  registryReceipt : Option Json
  lineageHeadReceipt : Option Json
  logInclusion : Option Json
  extensions : List (String × Json)
  rawBody : Option Json
deriving DecidableEq

structure PublishResponse where
  ctxId : CtxId
  lineageId : LineageId
  version : UInt32
  createdAt : DateTime
  status : Status
  registryReceipt : Option Json
deriving DecidableEq

theorem retractionState_append (events : List LifecycleEvent) (e : LifecycleEvent) (b : Bool)
    (h : e.eventType.effect = some b) : retractionState (events ++ [e]) = b := by
  simp [retractionState, h]

end Acdp.Types
