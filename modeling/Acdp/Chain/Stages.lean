import Acdp.Chain.Engine

namespace Acdp.Chain

open Acdp.Types
open Std (ExtTreeSet)

structure AppliedRevocation where
  ctxId : String
  revocation : KeyRevocation
  evidenceTime : Option DateTime
  unevaluated : Bool
deriving DecidableEq, Repr

structure PassFacts where
  backdated : Bool
deriving DecidableEq, Repr

structure EventStatus where
  signed : Bool
  authorized : Bool
  unsignedRegistry : Bool
deriving DecidableEq, Repr

namespace Engine

variable (e : Engine)

def checkpointSignature (checkpoint : LogCheckpoint) (raw : Json) (pass : PassAt) : Option Bool :=
  match checkpoint.registryDid, LogCheckpoint.preimageHashOfValue e.env raw with
  | .ok did, .ok hash =>
    match e.keys.check e.env checkpoint.signature hash did pass.t with
    | .ok c => some c.valid
    | .error .malformed => some false
    | .error .noEvidence => none
  | _, _ => none

def cosignatureVerifies (checkpoint : LogCheckpoint) (pass : PassAt) (c : LogCosignature × Json) : Bool :=
  (c.1.crossCheckAgainstCheckpoint checkpoint).isOk && c.1.witnessKeyDid.isOk &&
    match LogCosignature.preimageHashOfValue e.env c.2 with
    | .error _ => false
    | .ok hash =>
      (e.keys.check e.env c.1.signature hash c.1.witnessId pass.t).toOption.any (·.valid)

def countWitness (checkpoint : LogCheckpoint) (pass : PassAt) (seen : ExtTreeSet String)
    (c : LogCosignature × Json) : ExtTreeSet String :=
  if c.1.witnessId ∉ e.pinned.witnesses ∨ c.1.witnessId ∈ seen ∨ ¬ pass.admits c.1.witnessedAt ∨
      ¬ e.cosignatureVerifies checkpoint pass c then seen
  else seen.insert c.1.witnessId

def witnesses (checkpoint : LogCheckpoint) (pass : PassAt) : ℕ :=
  ((e.parsed.checkpoints.flatMap (·.cosignatures)).foldl (e.countWitness checkpoint pass) ∅).size

def bareLog (value : LogValue) : LogStage := ⟨value, none, none, none, none, none⟩

def log (pc : ParsedContext) (basic : Basic) (pass : PassAt) : LogStage :=
  match pc.logInclusion with
  | none => bareLog .absent
  | some (inclusion, raw) =>
    let checkpoint := inclusion.logCheckpoint
    if ¬ pass.admits checkpoint.timestamp then bareLog .absent
    else match basic.receipt, pc.receipt with
      | some receipt, some (_, rawReceipt) =>
        let registryDid := authorityToDidWeb pc.body.originRegistry
        if checkpoint.registryDid.toOption ≠ some registryDid then bareLog .invalid
        else match raw.get "log_checkpoint" with
          | none => bareLog .invalid
          | some rawCheckpoint =>
            match e.checkpointSignature checkpoint rawCheckpoint pass with
            | some false => bareLog .invalid
            | none => bareLog .cannotVerify
            | some true =>
              let leaf := LogLeaf.forPublish e.env pc.body pc.body.contentHash
                receipt.keyFingerprint rawReceipt
              if ¬ (leaf.bind (inclusion.verifyReconstructedLeaf e.env)).isOk then bareLog .invalid
              else {
                value := .included
                treeSize := some checkpoint.treeSize
                checkpointTime := some (fmtTs e.env checkpoint.timestamp)
                witnesses := some (e.witnesses checkpoint pass)
                basis := some (e.registryBasis registryDid)
                reason := none }
      | _, _ => bareLog .cannotVerify

def eventStatus (body : Body) (event : LifecycleEvent) (raw : Json) (pass : PassAt) : EventStatus :=
  let registryDid := authorityToDidWeb body.originRegistry
  if ¬ event.isSigned then
    ⟨false, false, event.ctxId == body.ctxId && event.actor == registryDid⟩
  else match lifecycleEventPrechecks e.env raw body.ctxId body.agentId (some registryDid) with
    | .error _ => ⟨false, false, false⟩
    | .ok (event, hash) =>
      match event.signature with
      | none => ⟨false, false, false⟩
      | some signature =>
        match e.keys.check e.env signature hash event.actor pass.t with
        | .ok k => if k.valid then ⟨true, k.inAssertion || event.actor ≠ body.agentId, false⟩
            else ⟨false, false, false⟩
        | .error _ => ⟨false, false, false⟩

def eventReceiptVerifies (body : Body) (rawEvent : Json) (j : ℕ) (pass : PassAt)
    (r : EventReceipt × Json) : Bool :=
  (r.1.checkBinding e.env body.originRegistry body.ctxId rawEvent (UInt64.ofNat j) body.createdAt).isOk &&
    match EventReceipt.preimageHashOfValue e.env r.2 with
    | .error _ => false
    | .ok hash => (e.keys.check e.env r.1.signature hash (authorityToDidWeb body.originRegistry)
        pass.t).toOption.any (·.valid)

def acceptedAt (pc : ParsedContext) (pass : PassAt) (p : (LifecycleEvent × Json) × ℕ) : Option DateTime :=
  (pc.eventReceipts[p.2]?).bind (fun r =>
    if e.eventReceiptVerifies pc.body p.1.2 p.2 pass r then some r.1.acceptedAt else none)

def accepted (pc : ParsedContext) (pass : PassAt) : List (Option DateTime) :=
  pc.events.zipIdx.map (e.acceptedAt pc pass)

def decreases : Option DateTime → List DateTime → Bool
  | _, [] => false
  | last, a :: rest => last.any (fun l => a < l) || decreases (some a) rest

def admittedBasis (body : Body) (pass : PassAt) (p : (LifecycleEvent × Json) × Option DateTime) :
    Option Basis :=
  let status := e.eventStatus body p.1.1 p.1.2 pass
  let signedOk := status.signed && status.authorized
  match pass, p.2 with
  | .asOf t, some a => if a ≤ t ∧ (signedOk ∨ status.unsignedRegistry) then some .registry else none
  | .asOf t, none =>
    if e.requireAttestedEvents = false ∧ signedOk ∧ p.1.1.occurredAt ≤ t then some .observed else none
  | .latest, some _ => if status.signed ∨ status.unsignedRegistry then some .registry else none
  | .latest, none => if signedOk then some .observed else none

def backdated (pass : PassAt) (p : (LifecycleEvent × Json) × Option DateTime) : Bool :=
  match pass, p.2 with
  | .asOf t, some a => p.1.1.occurredAt ≤ t && t < a
  | _, _ => false

def retractionStage (events : List LifecycleEvent) (accepted : List (Option DateTime))
    (admitted : List (Option Basis)) (pass : PassAt) : RetractionStage :=
  let n := (admitted.takeWhile Option.isSome).length
  if pass.isAsOf ∧ (admitted.drop n).any Option.isSome then ⟨.unknown, some n, none, none, none⟩
  else {
    value := if retractionState (events.take n) then .retracted else .notRetracted
    eventsAdmitted := some n
    basis := ((admitted.take n).filterMap id).max?
    evidenceTime := if n = 0 then none else ((accepted[n - 1]?).join).map (fmtTs e.env)
    reason := none }

def retraction (pc : ParsedContext) (pass : PassAt) : RetractionStage × PassFacts :=
  let accepted := e.accepted pc pass
  if decreases none ((accepted.filterMap id).filter pass.admits) then
    (⟨.invalid, none, none, none, none⟩, ⟨false⟩)
  else
    let dated := pc.events.zip accepted
    (e.retractionStage (pc.events.map Prod.fst) accepted (dated.map (e.admittedBasis pc.body pass)) pass,
      ⟨dated.any (backdated pass)⟩)

def keylessRevocation (key : String) (b : Basic) (revocation : KeyRevocation) (pass : PassAt) :
    Option AppliedRevocation :=
  let entry (unevaluated : Bool) : AppliedRevocation :=
    ⟨key, revocation, b.receipt.map (·.createdAt), unevaluated⟩
  match b.keyless, b.keylessFailure with
  | _, some .noEvidence | _, some .unavailable | _, some .unaccepted => some (entry true)
  | some a, none =>
    let withdrawn := (e.parsed.contexts[a.ctxId]?).any (fun att =>
      (e.retraction att pass).1.value == .retracted)
    if a.signatureValid ∧ ¬ withdrawn ∧ a.attestation.orgWide ∧
        (revocation.checkNotSelfSigned a.attestation.keyFingerprint).isOk then some (entry false)
    else none
  | _, _ => none

def keylessSignedRevocation (key : String) (pc : ParsedContext) (b : Basic) (pass : PassAt) :
    Option AppliedRevocation :=
  if b.presence.value ≠ .present ∨ b.contentHash.value ≠ .ok ∨ b.identity.value = .mismatch then none
  else match KeyRevocation.fromBody e.env pc.body with
    | .error _ => none
    | .ok revocation =>
      if revocation.trustClass ≠ .producerSigned ∨ revocation.publisher ≠ revocation.revokedKeyController then
        none
      else if e.keyless then e.keylessRevocation key b revocation pass
      else some ⟨key, revocation, b.receipt.map (·.createdAt), true⟩

def strict (b : Basic) : Bool :=
  b.presence.value == .present && b.contentHash.value == .ok && b.identity.value != .mismatch && b.sigOk &&
    (b.key.value == .current || b.key.value == .historicalReceiptAttested)

def appliedRevocation (key : String) (pc : ParsedContext) (b : Basic) (pass : PassAt) :
    Option AppliedRevocation :=
  if ¬ pc.body.contextType.isKeyRevocation then none
  else if pass.isAsOf ∧ b.receipt = none then none
  else if isKeylessKeyId pc.body.signature.keyId then e.keylessSignedRevocation key pc b pass
  else if ¬ strict b then none
  else match KeyRevocation.fromBody e.env pc.body, b.fingerprint with
    | .ok revocation, some fp =>
      if ¬ (revocation.checkNotSelfSigned fp).isOk then none
      else if revocation.trustClass = .registryAttested ∧
          revocation.publisher ≠ authorityToDidWeb pc.body.originRegistry then none
      else some ⟨key, revocation, b.receipt.map (·.createdAt), false⟩
    | _, _ => none

def appliedRevocations (pass : PassAt) : List AppliedRevocation :=
  e.parsed.contexts.toList.filterMap (fun p => e.appliedRevocation p.1 p.2 (e.basic p.1 p.2 pass) pass)

def attestationRetraction (b : Basic) (pass : PassAt) : Option AppliedRevocation := do
  let attested ← b.keyless
  let pc ← e.parsed.contexts[attested.ctxId]?
  let stage := (e.retraction pc pass).1
  guard (stage.value = .retracted)
  let a := attested.attestation
  return {
    ctxId := attested.ctxId
    revocation := {
      revokedKeyFingerprint := a.keyFingerprint
      compromisedSince := a.notBefore
      reason := some "key attestation retracted (RFC-ACDP-0021 §9.2)"
      revokedKeyId := some a.keyId
      revokedKeyController := a.controller
      publisher := attested.attester
      trustClass := .registryAttested
      ctxId := none }
    evidenceTime := stage.evidenceTime.bind (parseTs e.env)
    unevaluated := false }

def vantagePinned (vantage : String) : Bool := vantage ∈ e.pinned.vantages

def inScope (body : Body) (a : AppliedRevocation) : Bool :=
  a.revocation.revokedKeyController == body.agentId &&
    match a.revocation.trustClass with
    | .producerSigned => a.revocation.publisher == body.agentId
    | .registryAttested => a.revocation.publisher == authorityToDidWeb body.originRegistry

def bareRevocation (value : KeyRevocationValue) : KeyRevocationStage := ⟨value, none, none, none, none⟩

def discovered (producer : String) (pass : PassAt) : KeyRevocationStage :=
  let records := e.parsed.discovery.getD producer []
  if records.any (fun d => d.outcome == .revoked && pass.admits d.completedAt) then bareRevocation .unknown
  else
    let deciding := (records.zipIdx.filter (fun p =>
      p.1.outcome == .notRevokedComplete && pass.admits p.1.completedAt)).reverse.argmax
        (fun p => toLex (toLex (e.vantagePinned p.1.vantage, p.1.completedAt), p.2))
    match deciding with
    | some (d, _) =>
      { bareRevocation .notRevoked with
        basis := some (if e.vantagePinned d.vantage then .pinned else .observed)
        evidenceTime := some (fmtTs e.env d.completedAt) }
    | none => bareRevocation .unknown

def fixingRank (a : AppliedRevocation) : DateTime ×ₗ Bool ×ₗ String :=
  toLex (a.revocation.compromisedSince, toLex (a.revocation.trustClass != .producerSigned, a.ctxId))

def placement (receipt : Option VerifiedReceipt) (compromisedSince : DateTime) : KeyRevocationValue :=
  match receipt with
  | none => .unplaceable
  | some r =>
    if r.keyStatus = .historical then .unplaceable
    else if r.createdAt < compromisedSince then .preCompromise
    else .revoked

def keyRevocation (body : Body) (basic : Basic) (revocations : List AppliedRevocation) (pass : PassAt) :
    KeyRevocationStage :=
  let relevant := revocations.filter (inScope body)
  let fingerprint := basic.fingerprint <|> basic.receipt.map (·.keyFingerprint)
  let pending := fingerprint.bind (fun fp =>
    ((relevant.filter (fun a => a.unevaluated && a.revocation.revokes fp)).map (·.ctxId)).min?)
  let evaluated := relevant.filter (fun a => !a.unevaluated)
  let unknownPending (ctxId : String) : KeyRevocationStage :=
    { bareRevocation .unknown with revocationCtxId := some ctxId }
  let undecided : KeyRevocationStage :=
    match pending with
    | some ctxId => unknownPending ctxId
    | none => e.discovered body.agentId pass
  if evaluated = [] then undecided
  else match fingerprint with
    | none => bareRevocation .unknown
    | some fp =>
      match (evaluated.filter (fun a => a.revocation.revokes fp)).argmin fixingRank with
      | none => undecided
      | some fixing =>
        let value := placement basic.receipt fixing.revocation.compromisedSince
        match value, pending with
        | .preCompromise, some ctxId => unknownPending ctxId
        | _, _ => {
            value := value
            revocationCtxId := some fixing.ctxId
            basis := some .registry
            evidenceTime := fixing.evidenceTime.map (fmtTs e.env)
            reason := none }

end Engine

def Stages.refused (s : Stages) : Bool :=
  s.presence.value == .cycle || s.presence.value == .notYetPublished ||
    s.identity.any (fun x => x.value == .mismatch) || s.contentHash.any (fun x => x.value == .mismatch) ||
    s.signature.any (fun x => x.value == .invalid || x.value == .unresolvable) ||
    s.key.any (fun x => x.value == .revoked || x.value == .unplaceable || x.value == .unresolvable) ||
    s.keyRevocation.any (fun x => x.value == .revoked || x.value == .unplaceable)

def Stages.unknown (s : Stages) : Bool :=
  s.presence.value == .withheld || s.presence.value == .unresolved || s.presence.value == .absent ||
    s.key.any (fun x => x.value == .unknown) || s.keyRevocation.any (fun x => x.value == .unknown) ||
    s.retraction.any (fun x => x.value == .unknown || x.value == .invalid) ||
    s.registryReceipt.any (fun x => x.value == .invalid) || s.log.any (fun x => x.value == .invalid)

def Stages.bases (s : Stages) : List (Option Basis) :=
  [s.presence.basis, s.identity.bind (·.basis), s.signature.bind (·.basis),
    s.registryReceipt.bind (·.basis), s.key.bind (·.basis), s.log.bind (·.basis),
    s.retraction.bind (·.basis), s.keyRevocation.bind (·.basis)]

def Stages.caveats (s : Stages) (undated : Bool) : List Caveat :=
  let caveat (b : Bool) (c : Caveat) : List Caveat := if b then [c] else []
  (caveat undated .undated ++
    caveat (s.identity.any (fun x => x.value == .unbound)) .identityUnbound ++
    caveat (s.key.any (fun x => x.value == .historicalReceiptAttested)) .historicalKey ++
    caveat (s.keyRevocation.any (fun x => x.value == .preCompromise)) .preCompromise ++
    caveat (s.registryReceipt.any (fun x => x.keyStatus == some .historical)) .historicalReceiptKey ++
    caveat (s.retraction.any (fun x => x.value == .retracted)) .retracted ++
    caveat (s.log.any (fun x => x.value == .cannotVerify)) .logCannotVerify ++
    caveat (s.bases.contains (some .observed)) .observedBasis).insertionSort (fun a b => a.rank ≤ b.rank)

def finish (stages : Stages) (undated : Bool) : Pass where
  verdict :=
    if stages.refused then .refused
    else if stages.unknown then .unknown
    else if stages.caveats undated ≠ [] then .okWithCaveats
    else .ok
  caveats := stages.caveats undated
  stages := stages

namespace Engine

variable (e : Engine)

def bare (value : PresenceValue) : Pass := finish (.bare ⟨value, none, none⟩) false

def overriddenKey (basic : Basic) (kr : KeyRevocationStage) : KeyStage :=
  match kr.value with
  | .revoked => ⟨.revoked, kr.basis, kr.evidenceTime, none⟩
  | .unplaceable => ⟨.unplaceable, kr.basis, kr.evidenceTime, none⟩
  | _ => basic.key

def full (pc : ParsedContext) (basic : Basic) (revocations : List AppliedRevocation) (pass : PassAt) :
    Pass × PassFacts :=
  if basic.presence.value ≠ .present then (finish (.bare basic.presence) false, ⟨false⟩)
  else
    let retraction := e.retraction pc pass
    let withdrawn := if e.keyless then (e.attestationRetraction basic pass).toList else []
    let kr := e.keyRevocation pc.body basic (revocations ++ withdrawn) pass
    (finish {
        presence := basic.presence
        identity := some basic.identity
        contentHash := some basic.contentHash
        signature := basic.signature
        registryReceipt := some basic.receiptStage
        key := some (overriddenKey basic kr)
        log := some (e.log pc basic pass)
        retraction := some retraction.1
        keyRevocation := some kr } basic.undated,
      retraction.2)

def verifiedEventTimes (pc : ParsedContext) : List DateTime :=
  pc.eventReceipts.zipIdx.filterMap (fun p =>
    match pc.events[p.2]? with
    | none => none
    | some event => if e.eventReceiptVerifies pc.body event.2 p.2 .latest p.1 then some p.1.1.acceptedAt
        else none)

end Engine

end Acdp.Chain
