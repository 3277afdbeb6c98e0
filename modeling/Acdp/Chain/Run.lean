import Acdp.Chain.Stages
import Acdp.Chain.Walk

namespace Acdp.Chain

open Acdp.Types
open Std (ExtTreeMap ExtTreeSet)

structure NodeProjection where
  ctxId : String
  depth : ℕ
  derivedFrom : Option (List String)
  asOf : Option Pass
deriving DecidableEq, Repr

structure AsOfProjection where
  verdictVersion : String
  roots : List String
  asOf : Option String
  limits : Limits
  requireAttestedEvents : Bool
  optionsDigest : Option String
  complete : Bool
  control : Option Control
  frontier : List String
  nodes : List NodeProjection
  chainAsOf : Option Verdict
  taintedPathsAsOf : Option (List (List String))
deriving DecidableEq, Repr

def Node.project (n : Node) : NodeProjection where
  ctxId := n.ctxId
  depth := n.depth
  derivedFrom := n.derivedFrom
  asOf := n.asOf

def asOfProjection (v : ChainVerdict) : Option AsOfProjection :=
  if v.asOf = none then none
  else some {
    verdictVersion := v.verdictVersion
    roots := v.roots
    asOf := v.asOf
    limits := v.limits
    requireAttestedEvents := v.requireAttestedEvents
    optionsDigest := v.optionsDigest
    complete := v.complete
    control := v.control
    frontier := v.frontier
    nodes := v.nodes.map Node.project
    chainAsOf := v.chain.asOf
    taintedPathsAsOf := v.taintedPaths.asOf }

structure JcsDigest where
  pinned : Pinned → String
  evidence : Evidence → String
  projection : AsOfProjection → String
  verdict : ChainVerdict → String

def Pinned.digest (jcs : JcsDigest) (p : Pinned) : Option String :=
  if p.isEmpty then none else some (jcs.pinned p.normalized)

def verdictDigest (jcs : JcsDigest) (v : ChainVerdict) : String :=
  jcs.verdict { v with asOfDigest := none, verdictDigest := "" }

namespace Engine

variable (e : Engine)

def missingPresence (ctxId : String) : PresenceValue :=
  match e.parsed.omitted[ctxId]? with
  | some .withheld => .withheld
  | some _ => .unresolved
  | none => .absent

def passAt (cycles : ExtTreeSet String) (ctxId : String) (pass : PassAt) : Pass × PassFacts :=
  if ctxId ∈ cycles then (bare .cycle, ⟨false⟩)
  else match e.parsed.contexts[ctxId]? with
    | some pc => e.full pc (e.basic ctxId pc pass) (e.appliedRevocations pass) pass
    | none => (bare (e.missingPresence ctxId), ⟨false⟩)

def node (cycles : ExtTreeSet String) (asOf : Option DateTime) (p : String × ℕ) : Node × Option PassFacts :=
  let latest := (e.passAt cycles p.1 .latest).1
  let atT := asOf.map (fun t => e.passAt cycles p.1 (.asOf t))
  ({ ctxId := p.1
     depth := p.2
     derivedFrom := match e.parsed.contexts[p.1]?, latest.stages.presence.value with
       | some pc, .present => some pc.body.derivedFrom
       | _, _ => none
     asOf := atT.map Prod.fst
     latest := latest },
   atT.map Prod.snd)

def contextTimes (p : String × ParsedContext) : List DateTime :=
  ((e.basic p.1 p.2 .latest).receipt.map (·.createdAt)).toList ++ e.verifiedEventTimes p.2 ++
    match p.2.logInclusion with
    | none => []
    | some (inclusion, raw) =>
      match raw.get "log_checkpoint" with
      | none => []
      | some rawCp =>
        if e.checkpointSignature inclusion.logCheckpoint rawCp .latest = some true then
          [inclusion.logCheckpoint.timestamp]
        else []

def horizon : Option DateTime :=
  (e.parsed.contexts.toList.flatMap e.contextTimes ++
    e.parsed.snapshots.toList.flatMap (fun p => p.2.map Prod.fst) ++
    e.parsed.discovery.toList.flatMap (fun p => p.2.map (·.completedAt)) ++
    (e.parsed.checkpoints.filter (fun c => e.checkpointSignature c.checkpoint c.raw .latest = some true)).map
      (·.checkpoint.timestamp)).max?

end Engine

def revokedAt (p : Pass) : Bool :=
  p.stages.keyRevocation.any (fun k => k.value == .revoked || k.value == .unplaceable)

def unprovable (a l : Pass) : Bool :=
  (a.stages.key.any (fun k => k.reason == some reasonNoEvidenceAtAsOf) &&
      l.stages.key.any (fun k => k.value != .unknown && k.value != .unresolvable)) ||
    (a.stages.registryReceipt.any (fun r => r.reason == some reasonNoEvidenceAtAsOf) &&
      l.stages.registryReceipt.any (fun r => r.value == .ok))

def driftKinds (a l : Pass) (backdated : Bool) : List DriftKind :=
  let retraction (p : Pass) := p.stages.retraction.map (·.value)
  let kind (b : Bool) (k : DriftKind) : List DriftKind := if b then [k] else []
  let kinds :=
    kind (unprovable a l) .asOfUnprovable ++
    kind backdated .backdatedEvent ++
    kind (a.stages.presence.value == .notYetPublished) .publishedAfterAsOf ++
    kind (retraction l == some .notRetracted && retraction a == some .retracted) .republishedAfterAsOf ++
    kind (retraction l == some .retracted && retraction a != some .retracted) .retractedAfterAsOf ++
    kind (revokedAt l && !revokedAt a) .revokedAfterAsOf
  if kinds = [] ∧ a.verdict ≠ l.verdict then [.verdictChanged] else kinds

def nodeDrift (n : Node × Option PassFacts) : List Drift :=
  match n.1.asOf with
  | none => []
  | some a => (driftKinds a n.1.latest (n.2.any (·.backdated))).map (⟨n.1.ctxId, ·⟩)

def chainVerdict (complete : Bool) (passes : List Pass) : Option Verdict :=
  ((passes.map (·.verdict)).max?).map (fun worst => if complete then worst else max worst .unknown)

def tainted (paths : ExtTreeMap String (List String)) (passes : List (String × Pass)) : List (List String) :=
  ((passes.filter (fun p => p.2.verdict == .refused ||
      p.2.stages.retraction.any (fun r => r.value == .retracted))).filterMap
    (fun p => paths[p.1]?)).insertionSort (· ≤ ·)

def Engine.verdict (jcs : JcsDigest) (e : Engine) (evidence : Evidence) (options : Options) (w : Walk) :
    ChainVerdict :=
  let cycles := cycleNodes w
  let paths := shortestPaths w
  let evaluated := w.depth.toList.map (e.node cycles options.asOf)
  let nodes := evaluated.map Prod.fst
  let atT := nodes.filterMap (fun n => n.asOf.map (n.ctxId, ·))
  let latest := nodes.map (fun n => (n.ctxId, n.latest))
  let complete := w.control.isNone
  let v : ChainVerdict := {
    verdictVersion := Chain.verdictVersion
    roots := w.roots
    asOf := options.asOf.map (fmtTs e.env)
    horizon := e.horizon.map (fmtTs e.env)
    limits := options.limits
    requireAttestedEvents := options.requireAttestedEvents
    optionsDigest := options.pinned.bind (Pinned.digest jcs)
    evidenceDigest := jcs.evidence evidence
    complete := complete
    control := w.control
    frontier := w.frontier
    nodes := nodes
    chain := {
      asOf := if options.asOf.isSome then chainVerdict complete (atT.map Prod.snd) else none
      latest := (chainVerdict complete (latest.map Prod.snd)).getD .unknown }
    taintedPaths := {
      asOf := if options.asOf.isSome then some (tainted paths atT) else none
      latest := tainted paths latest }
    drift := if options.asOf.isSome then evaluated.flatMap nodeDrift else []
    asOfDigest := none
    verdictDigest := "" }
  let v := { v with asOfDigest := (asOfProjection v).map jcs.projection }
  { v with verdictDigest := verdictDigest jcs v }

def engineOf (env : Env) (keyless : Bool) (parsed : Parsed) (options : Options) : Engine :=
  let pinned := (options.pinned.getD .default).normalized
  { env := env
    keyless := keyless
    parsed := parsed
    keys := BundleKeys.new env parsed pinned
    pinned := pinned
    requireAttestedEvents := options.requireAttestedEvents
    keylessAttesters := pinned.keylessAttesters }

def checkRoots (roots : List String) : Except ChainError Unit :=
  if roots = [] then .error (.invalidOptions "verify_chain needs at least one root")
  else match roots.find? (fun r => !isCtxId r) with
    | some bad => .error (.invalidOptions s!"root '{bad}' is not a ctx_id")
    | none => .ok ()

def verifyChainWithBudget (env : Env) (jcs : JcsDigest) (keyless : Bool) (roots : List String)
    (evidence : Evidence) (options : Options) (stop : ℕ → Bool) : Except ChainError ChainVerdict := do
  options.check env keyless
  checkRoots roots
  let parsed ← evidence.parse env
  return (engineOf env keyless parsed options).verdict jcs evidence options
    (walk roots parsed options.limits stop)

def verifyChain (env : Env) (jcs : JcsDigest) (keyless : Bool) (roots : List String) (evidence : Evidence)
    (options : Options) : Except ChainError ChainVerdict :=
  verifyChainWithBudget env jcs keyless roots evidence options (fun _ => false)

end Acdp.Chain
