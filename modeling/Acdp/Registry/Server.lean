import Acdp.Registry.Store

namespace Acdp.Registry.Server

open Acdp.Types
open Acdp.Registry.Store (Inner)

structure Capabilities where
  anonymousPublicReads : Bool

structure LineageHeadReceipt where
  receiptVersion : String
  registryDid : String
  lineageId : LineageId
  headCtxId : CtxId
  headVersion : UInt32
  headStatus : String
  asOf : DateTime
  signature : Signature

def lineageHeadReceiptVersion : String := "acdp-lhr/1"

structure ReceiptSigner where
  registryDid : String
  keyId : String
  algorithm : String
  signAndSerialize : LineageHeadReceipt → Except AcdpError Json

def ReceiptSigner.mintLineageHead (signer : ReceiptSigner) (lineageId : LineageId) (headCtxId : CtxId)
    (headVersion : UInt32) (headStatus : Status) (asOf : DateTime) : Except AcdpError Json :=
  let authority := headCtxId.authority
  if headStatus = .superseded ∨ headStatus = .retracted then
    .error (.schemaViolation ("cannot mint a lineage-head receipt with head_status " ++
      s!"'{headStatus.asStr}' — a superseded version is never the head (RFC-ACDP-0011 §4) and a " ++
      "retracted version is never served as head (RFC-ACDP-0013 §8.3)"))
  else if headVersion < 1 then
    .error (.schemaViolation
      "cannot mint a lineage-head receipt with head_version 0 (RFC-ACDP-0011 §4)")
  else if authorityToDidWeb authority ≠ signer.registryDid then
    .error (.schemaViolation ("cannot mint a lineage-head receipt for head_ctx_id authority " ++
      s!"'{authority}' under registry_did '{signer.registryDid}' (RFC-ACDP-0011 §4: lineages are " ++
      "single-registry)"))
  else signer.signAndSerialize {
    receiptVersion := lineageHeadReceiptVersion
    registryDid := signer.registryDid
    lineageId := lineageId
    headCtxId := headCtxId
    headVersion := headVersion
    headStatus := headStatus.asStr
    asOf := asOf.truncMs
    signature := ⟨signer.algorithm, signer.keyId, ""⟩ }

structure RegistryServer where
  caps : Capabilities
  mintHeadReceipts : Bool
  receiptSigner : Option ReceiptSigner

def canRetrieve (body : Body) (requester : Option AgentDid) (caps : Capabilities) : Bool :=
  match body.visibility with
  | .public => caps.anonymousPublicReads || requester.isSome
  | .restricted | .private =>
    match requester with
    | none => false
    | some r => r == body.agentId || body.audience.any (·.any (· == r))

def RegistryServer.serveHead (server : RegistryServer) (lineageId : LineageId) (ctx : FullContext)
    (asOf : DateTime) : Except AcdpError FullContext :=
  if server.mintHeadReceipts then
    match server.receiptSigner with
    | none => .error (.registryInternal ("head-receipt minting enabled without a receipt signer " ++
        "(RFC-ACDP-0011 §9 prerequisite violated)"))
    | some signer =>
      (signer.mintLineageHead lineageId ctx.body.ctxId ctx.body.version ctx.registryState.status
        asOf).map (fun receipt => { ctx with lineageHeadReceipt := some receipt })
  else .ok ctx

def RegistryServer.current (server : RegistryServer) (s : Inner) (lineageId : LineageId)
    (requester : Option AgentDid) (now asOf : DateTime) : Except AcdpError (Option FullContext) :=
  match (Store.lineage s lineageId now).reverse.find? (fun ctx =>
      Store.isHeadStatus ctx.registryState.status && canRetrieve ctx.body requester server.caps) with
  | none => .ok none
  | some ctx => (server.serveHead lineageId ctx asOf).map some

theorem serveHead_body (server : RegistryServer) (lineageId : LineageId) (ctx served : FullContext)
    (asOf : DateTime) (h : server.serveHead lineageId ctx asOf = .ok served) :
    served.body = ctx.body := by
  rw [RegistryServer.serveHead] at h
  split_ifs at h
  · cases hsigner : server.receiptSigner with
    | none =>
      rw [hsigner] at h
      cases h
    | some signer =>
      simp only [hsigner] at h
      cases hmint : signer.mintLineageHead lineageId ctx.body.ctxId ctx.body.version
          ctx.registryState.status asOf with
      | error e =>
        rw [hmint] at h
        cases h
      | ok receipt =>
        rw [hmint] at h
        obtain rfl := Except.ok.inj h
        rfl
  · obtain rfl := Except.ok.inj h
    rfl

end Acdp.Registry.Server
