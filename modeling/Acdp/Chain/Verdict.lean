import Acdp.Chain.Options
import Mathlib.Order.Lattice

namespace Acdp.Chain

open Acdp.Types

inductive Verdict where
  | ok
  | okWithCaveats
  | unknown
  | refused
deriving DecidableEq, Repr

def Verdict.rank : Verdict → ℕ
  | .ok => 0
  | .okWithCaveats => 1
  | .unknown => 2
  | .refused => 3

theorem Verdict.rank_injective : Function.Injective Verdict.rank := by
  intro a b h
  cases a <;> cases b <;> first | rfl | cases h

instance : LinearOrder Verdict := LinearOrder.lift' Verdict.rank Verdict.rank_injective

inductive Basis where
  | selfEvident
  | pinned
  | registry
  | observed
deriving DecidableEq, Repr

def Basis.rank : Basis → ℕ
  | .selfEvident => 0
  | .pinned => 1
  | .registry => 2
  | .observed => 3

theorem Basis.rank_injective : Function.Injective Basis.rank := by
  intro a b h
  cases a <;> cases b <;> first | rfl | cases h

instance : LinearOrder Basis := LinearOrder.lift' Basis.rank Basis.rank_injective

inductive Caveat where
  | historicalKey
  | historicalReceiptKey
  | identityUnbound
  | logCannotVerify
  | observedBasis
  | preCompromise
  | retracted
  | undated
deriving DecidableEq, Repr

def Caveat.rank : Caveat → ℕ
  | .historicalKey => 0
  | .historicalReceiptKey => 1
  | .identityUnbound => 2
  | .logCannotVerify => 3
  | .observedBasis => 4
  | .preCompromise => 5
  | .retracted => 6
  | .undated => 7

inductive Control where
  | maxDepth
  | maxNodes
  | maxFanout
  | timeout
deriving DecidableEq, Repr

inductive PresenceValue where
  | present
  | withheld
  | unresolved
  | absent
  | cycle
  | notYetPublished
deriving DecidableEq, Repr

inductive IdentityValue where
  | ok
  | unbound
  | mismatch
deriving DecidableEq, Repr

inductive ContentHashValue where
  | ok
  | mismatch
deriving DecidableEq, Repr

inductive SignatureValue where
  | ok
  | invalid
  | unresolvable
deriving DecidableEq, Repr

inductive ReceiptValue where
  | absent
  | ok
  | invalid
deriving DecidableEq, Repr

inductive KeyStatus where
  | current
  | historical
deriving DecidableEq, Repr

inductive KeyValue where
  | current
  | historicalReceiptAttested
  | revoked
  | unplaceable
  | unresolvable
  | unknown
deriving DecidableEq, Repr

inductive LogValue where
  | absent
  | included
  | cannotVerify
  | invalid
deriving DecidableEq, Repr

inductive RetractionValue where
  | notRetracted
  | retracted
  | invalid
  | unknown
deriving DecidableEq, Repr

inductive KeyRevocationValue where
  | notRevoked
  | preCompromise
  | revoked
  | unplaceable
  | unknown
deriving DecidableEq, Repr

def reasonNoEvidenceAtAsOf : String := "no_evidence_at_as_of"

structure Presence where
  value : PresenceValue
  evidenceTime : Option String
  basis : Option Basis
deriving DecidableEq, Repr

structure Identity where
  value : IdentityValue
  basis : Option Basis
  reason : Option String
deriving DecidableEq, Repr

structure ContentHashStage where
  value : ContentHashValue
  basis : Basis
deriving DecidableEq, Repr

structure SignatureStage where
  value : SignatureValue
  basis : Option Basis
deriving DecidableEq, Repr

structure ReceiptStage where
  value : ReceiptValue
  keyStatus : Option KeyStatus
  basis : Option Basis
  evidenceTime : Option String
  reason : Option String
deriving DecidableEq, Repr

structure KeyStage where
  value : KeyValue
  basis : Option Basis
  evidenceTime : Option String
  reason : Option String
deriving DecidableEq, Repr

structure LogStage where
  value : LogValue
  treeSize : Option ℕ
  checkpointTime : Option String
  witnesses : Option ℕ
  basis : Option Basis
  reason : Option String
deriving DecidableEq, Repr

structure RetractionStage where
  value : RetractionValue
  eventsAdmitted : Option ℕ
  basis : Option Basis
  evidenceTime : Option String
  reason : Option String
deriving DecidableEq, Repr

structure KeyRevocationStage where
  value : KeyRevocationValue
  revocationCtxId : Option String
  basis : Option Basis
  evidenceTime : Option String
  reason : Option String
deriving DecidableEq, Repr

structure Stages where
  presence : Presence
  identity : Option Identity
  contentHash : Option ContentHashStage
  signature : Option SignatureStage
  registryReceipt : Option ReceiptStage
  key : Option KeyStage
  log : Option LogStage
  retraction : Option RetractionStage
  keyRevocation : Option KeyRevocationStage
deriving DecidableEq, Repr

def Stages.bare (presence : Presence) : Stages where
  presence := presence
  identity := none
  contentHash := none
  signature := none
  registryReceipt := none
  key := none
  log := none
  retraction := none
  keyRevocation := none

structure Pass where
  verdict : Verdict
  caveats : List Caveat
  stages : Stages
deriving DecidableEq, Repr

structure Node where
  ctxId : String
  depth : ℕ
  derivedFrom : Option (List String)
  asOf : Option Pass
  latest : Pass
deriving DecidableEq, Repr

structure ChainVerdicts where
  asOf : Option Verdict
  latest : Verdict
deriving DecidableEq, Repr

structure TaintedPaths where
  asOf : Option (List (List String))
  latest : List (List String)
deriving DecidableEq, Repr

inductive DriftKind where
  | asOfUnprovable
  | backdatedEvent
  | publishedAfterAsOf
  | republishedAfterAsOf
  | retractedAfterAsOf
  | revokedAfterAsOf
  | verdictChanged
deriving DecidableEq, Repr

structure Drift where
  ctxId : String
  kind : DriftKind
deriving DecidableEq, Repr

def verdictVersion : String := "acdp-chain-verdict/1"

structure ChainVerdict where
  verdictVersion : String
  roots : List String
  asOf : Option String
  horizon : Option String
  limits : Limits
  requireAttestedEvents : Bool
  optionsDigest : Option String
  evidenceDigest : String
  complete : Bool
  control : Option Control
  frontier : List String
  nodes : List Node
  chain : ChainVerdicts
  taintedPaths : TaintedPaths
  drift : List Drift
  asOfDigest : Option String
  verdictDigest : String
deriving DecidableEq, Repr

end Acdp.Chain
