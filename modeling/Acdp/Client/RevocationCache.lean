import Acdp.Types.Records
import Mathlib.Data.List.AList
import Mathlib.Data.List.MinMax
import Mathlib.Data.Finset.Insert
import Mathlib.Order.Basic
import Std.Data.ExtTreeMap
import Std.Data.ExtTreeMap.Lemmas

namespace Acdp.Client

open Acdp.Types
open Std (ExtTreeMap)

def maxMarkers : ℕ := 4096

def maxFactsPerClass : ℕ := 256

structure StoredFact where
  rev : KeyRevocation
  origin : String
deriving DecidableEq

structure FactSet where
  facts : List StoredFact
  producerSignedFull : Bool
  attestedFull : Finset String

namespace FactSet

def empty : FactSet := ⟨[], false, ∅⟩

def count (set : FactSet) (cls : RevocationTrustClass) (origin : String) : ℕ :=
  set.facts.countP (fun f => f.rev.trustClass == cls && (cls == .producerSigned || f.origin == origin))

def full (set : FactSet) (cls : RevocationTrustClass) (origin : String) : Bool :=
  match cls with
  | .producerSigned => set.producerSignedFull
  | .registryAttested => decide (origin ∈ set.attestedFull)

def markFull (set : FactSet) (cls : RevocationTrustClass) (origin : String) : FactSet :=
  match cls with
  | .producerSigned => { set with producerSignedFull := true }
  | .registryAttested => { set with attestedFull := insert origin set.attestedFull }

def admitFact (authority : String) (set : FactSet) (f : KeyRevocation) : FactSet :=
  if set.facts.any (fun existing => existing.rev == f) then set
  else if maxFactsPerClass ≤ set.count f.trustClass authority then set.markFull f.trustClass authority
  else { set with facts := set.facts ++ [⟨f, authority⟩] }

end FactSet

abbrev MarkerKey := String × String × Bool

structure Marker where
  minted : ℕ
  observed : ℤ
deriving DecidableEq, Repr

def classKey : RevocationTrustClass → Bool
  | .producerSigned => false
  | .registryAttested => true

structure RevocationCache where
  facts : ExtTreeMap String FactSet
  markers : AList (fun _ : MarkerKey => Marker)

/-- The order in which one `HashMap` iteration visits the entries. -/
structure IterOrder (α : Type*) where
  visit : List α → List α
  visit_perm : ∀ l, (visit l).Perm l

structure RecordSuccess where
  authority : String
  agentId : String
  cls : RevocationTrustClass
  facts : List KeyRevocation
  now : Marker
  order : IterOrder (Sigma (fun _ : MarkerKey => Marker))

namespace RevocationCache

def new : RevocationCache := ⟨∅, ∅⟩

def factSet (cache : RevocationCache) (agentId : String) : FactSet :=
  (cache.facts[agentId]?).getD FactSet.empty

def factsFor (cache : RevocationCache) (agentId : String) (includeRegistryAttested : Bool)
    (currentVantage : Option String) : List (KeyRevocation × String) :=
  match cache.facts[agentId]? with
  | none => []
  | some set =>
    (set.facts.filter (fun f => match f.rev.trustClass with
      | .producerSigned => true
      | .registryAttested => includeRegistryAttested && currentVantage.any (· == f.origin))).map
      (fun f => (f.rev, f.origin))

def freshMarker (cache : RevocationCache) (now : ℕ) (authority agentId : String) (cls : RevocationTrustClass)
    (freshness : ℕ) : Option ℤ :=
  if freshness = 0 then none
  else ((cache.markers.lookup (agentId, authority, classKey cls)).filter
    (fun m => decide (now - m.minted < freshness))).map Marker.observed

def evictOldest (order : IterOrder (Sigma (fun _ : MarkerKey => Marker)))
    (markers : AList (fun _ : MarkerKey => Marker)) : AList (fun _ : MarkerKey => Marker) :=
  match (order.visit markers.entries).argmin (fun entry => entry.2.minted) with
  | some oldest => markers.erase oldest.1
  | none => markers

def recordSuccess (cache : RevocationCache) (call : RecordSuccess) : RevocationCache :=
  let set := call.facts.foldl (FactSet.admitFact call.authority) (cache.factSet call.agentId)
  let facts := cache.facts.insert call.agentId set
  let key : MarkerKey := (call.agentId, call.authority, classKey call.cls)
  if set.full call.cls call.authority then ⟨facts, cache.markers.erase key⟩
  else
    let markers :=
      if key ∉ cache.markers ∧ maxMarkers ≤ cache.markers.entries.length then
        evictOldest call.order cache.markers
      else cache.markers
    ⟨facts, markers.insert key call.now⟩

def run (calls : List RecordSuccess) : RevocationCache := calls.foldl recordSuccess new

end RevocationCache

end Acdp.Client
