import Acdp.Chain.Run
import Acdp.Trust.List

namespace Acdp.Chain.Engine

open Acdp.Types

def producerRetracted (e : Engine) (pc : ParsedContext) (pass : PassAt) : Bool :=
  match (e.retraction pc pass).1.eventsAdmitted with
  | none => false
  | some n =>
    let events := (pc.events.take n).filter (fun p =>
      p.1.actor == pc.body.agentId &&
        ((e.eventStatus pc.body p.1 p.2 pass).signed && (e.eventStatus pc.body p.1 p.2 pass).authorized))
    retractionState (events.map Prod.fst)

end Acdp.Chain.Engine

namespace Acdp.Trust

open Acdp.Types
open Acdp.Did (asciiLower)
open Acdp.Chain (ChainError ChainVerdict ContentHashValue Engine Evidence JcsDigest
    KeyRevocationValue KeyValue Node Options ParsedContext Pass PassAt checkRoots engineOf walk)
open Std (ExtTreeMap)

instance lawfulEqOrd_pair : Std.LawfulEqOrd (String ×ₗ String) := ⟨fun h => compare_eq_iff_eq.mp h⟩

abbrev Floors := ExtTreeMap (String ×ₗ String) ℕ

structure TrustOptions where
  pins : List IssuerPin
  floors : Floors
  now : DateTime
  capabilities : ExtTreeMap String (List String)

namespace TrustOptions

def new (pins : List IssuerPin) (now : DateTime) : TrustOptions := ⟨pins, ∅, now, ∅⟩

def withFloors (o : TrustOptions) (floors : Floors) : TrustOptions := { o with floors := floors }

end TrustOptions

structure TrustPolicy where
  refuseUnknownIssuerRevocation : Bool
deriving DecidableEq, Repr

def TrustPolicy.default : TrustPolicy := ⟨false⟩

structure ChainTrust where
  latest : TrustReport
  asOf : Option TrustReport
  latestPins : List PinState
  floors : Floors

structure Run where
  engine : Engine
  serdeError : Json → String
  asOf : Option DateTime
  policy : TrustPolicy

/-- Whether the body of a list verifies in the pass, and whether its issuer key is revoked there. -/
def verifies (pass : Pass) (policy : TrustPolicy) : Bool × Bool :=
  let s := pass.stages
  let ok := s.presence.value == .present && s.identity.any (fun c => c.value != .mismatch) &&
    s.contentHash.any (fun c => c.value == .ok) && s.signature.any (fun c => c.value == .ok)
  let key := s.key.map (·.value)
  let revoked := key == some .revoked || key == some .unplaceable ||
    s.keyRevocation.any (fun k => k.value == .revoked || k.value == .unplaceable ||
      (policy.refuseUnknownIssuerRevocation && k.value == .unknown))
  let located := key == some .current || key == some .historicalReceiptAttested
  (ok && (located || revoked), revoked)

namespace Run

variable (r : Run)

def env : TrustEnv := { r.engine.env with serdeError := r.serdeError }

def candidate (pins : List IssuerPin) (pass : PassAt) (p : String × ParsedContext) :
    Option VerifiedListBody :=
  let contextType := p.2.body.contextType.wire
  if contextType ≠ trustListType then none
  else if ¬ pins.any (fun pin => pin.issuer == p.2.body.agentId) then none
  else
    let basic := r.engine.basic p.1 p.2 pass
    let (ok, revoked) := verifies (r.engine.full p.2 basic (r.engine.appliedRevocations pass) pass).1 r.policy
    if ¬ ok then none
    else some {
      agentId := p.2.body.agentId
      contextType := contextType
      metadata := p.2.body.metadata
      contentHash := p.2.body.contentHash
      ctxId := some p.1
      issuerKeyFingerprint := basic.fingerprint
      issuerKeyRevoked := revoked
      retracted := r.engine.producerRetracted p.2 pass }

def validFor (pins : List IssuerPin) (pass : PassAt) (pin : IssuerPin) : List ListVersion :=
  (r.engine.parsed.contexts.toList.filterMap (r.candidate pins pass)).filterMap
    (fun body => (validateListVersion r.env pin body).toOption)

def versions (pass : PassAt) (pins : List IssuerPin) : List (List ListVersion) :=
  pins.map (r.validFor pins pass)

def advance (persisted : Floors) (floors : Floors) (p : IssuerPin × List ListVersion) : Floors :=
  match advanceFloor persisted[p.1.series]? p.2 with
  | some f => floors.insert p.1.series f
  | none => floors

def trustPass : PassAt → TrustPass
  | .latest => .latest
  | .asOf _ => .asOf

def instant (opts : TrustOptions) : PassAt → DateTime
  | .latest => opts.now
  | .asOf t => t

def states (pass : PassAt) (opts : TrustOptions) : List PinState :=
  (opts.pins.zip (r.versions pass opts.pins)).map (fun p =>
    selectVersion p.1 p.2 (instant opts pass) (trustPass pass) opts.floors[p.1.series]?)

def receiptInput (pass : PassAt) (ctxId : String) (pc : ParsedContext) (p : Pass) : Option ReceiptInput := do
  let stage ← p.stages.registryReceipt
  guard (stage.value = .ok)
  let receipt ← (r.engine.basic ctxId pc pass).receipt
  let fingerprint ← receipt.registryKeyFingerprint
  return ⟨authorityToDidWeb pc.body.originRegistry, fingerprint⟩

def nodeTrust (opts : TrustOptions) (pass : PassAt) (states : List PinState) (n : Node) : Option NodeTrust :=
  do
  let p ← match pass with
    | .latest => some n.latest
    | .asOf _ => n.asOf
  guard (p.stages.presence.value = .present)
  let pc ← r.engine.parsed.contexts[n.ctxId]?
  return evaluate (TrustSubject.of pc.body pc.body.contextType.wire) (instant opts pass)
    (r.receiptInput pass n.ctxId pc p) opts.capabilities[asciiLower pc.body.originRegistry]? states

def report (digest : TrustReport → String) (verdict : ChainVerdict) (opts : TrustOptions) (pass : PassAt) :
    TrustReport :=
  let states := r.states pass opts
  TrustReport.new r.env digest (trustPass pass) (instant opts pass) states
    (verdict.nodes.filterMap (r.nodeTrust opts pass states)) (some verdict.verdictDigest)
    (some verdict.evidenceDigest)

def evaluate (digest : TrustReport → String) (verdict : ChainVerdict) (opts : TrustOptions) : ChainTrust where
  latest := r.report digest verdict opts .latest
  asOf := r.asOf.map (fun t => r.report digest verdict opts (.asOf t))
  latestPins := r.states .latest opts
  -- only the latest pass writes floors
  floors := (opts.pins.zip (r.versions .latest opts.pins)).foldl (advance opts.floors) opts.floors

end Run

def verifyChainWithTrustPolicy (env : TrustEnv) (jcs : JcsDigest) (digest : TrustReport → String)
    (keyless : Bool) (roots : List String) (evidence : Evidence) (options : Options) (trust : TrustOptions)
    (policy : TrustPolicy) :
    Except ChainError (ChainVerdict × ChainTrust) := do
  options.check env.toEnv keyless
  checkRoots roots
  let parsed ← evidence.parse env.toEnv
  let engine := engineOf env.toEnv keyless parsed options
  let verdict := engine.verdict jcs evidence options (walk roots parsed options.limits (fun _ => false))
  return (verdict, (Run.mk engine env.serdeError options.asOf policy).evaluate digest verdict trust)

def verifyChainWithTrust (env : TrustEnv) (jcs : JcsDigest) (digest : TrustReport → String) (keyless : Bool)
    (roots : List String) (evidence : Evidence) (options : Options) (trust : TrustOptions) :
    Except ChainError (ChainVerdict × ChainTrust) :=
  verifyChainWithTrustPolicy env jcs digest keyless roots evidence options trust .default

end Acdp.Trust
