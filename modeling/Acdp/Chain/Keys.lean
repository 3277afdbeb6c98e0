import Acdp.Chain.Evidence
import Acdp.Chain.Verdict
import Mathlib.Data.List.MinMax

namespace Acdp.Chain

open Acdp.Types
open Acdp.Crypto
open Std (ExtTreeMap)

structure Candidate where
  time : DateTime
  pinned : Bool
  index : ℕ
  doc : Option DidDocument
deriving DecidableEq

inductive Missing where
  | noEvidence
  | malformed
deriving DecidableEq, Repr

structure KeyCheck where
  basis : Basis
  evidenceTime : Option DateTime
  inAssertion : Bool
  fingerprint : Option String
  valid : Bool
deriving DecidableEq, Repr

structure BundleKeys where
  byDid : ExtTreeMap String (List Candidate)

def evaluate (env : Env) (did : String) (doc : List (String × Json)) : Option DidDocument :=
  match env.didDocumentDeserialize (.obj doc) with
  | .ok parsed => if parsed.id = did then some parsed else none
  | .error _ => none

namespace BundleKeys

def observed (env : Env) (did : String) (list : List Snapshot) : List Candidate :=
  list.zipIdx.map (fun p => ⟨p.1.1, false, p.2, evaluate env did p.1.2⟩)

def pin (env : Env) (byDid : ExtTreeMap String (List Candidate)) (p : PinnedSnapshot × ℕ) :
    ExtTreeMap String (List Candidate) :=
  match parseTs env p.1.instant with
  | none => byDid
  | some time => byDid.insert p.1.did
      (byDid.getD p.1.did [] ++ [⟨time, true, p.2, evaluate env p.1.did p.1.document⟩])

def new (env : Env) (parsed : Parsed) (pinned : Pinned) : BundleKeys where
  byDid := pinned.snapshots.zipIdx.foldl (pin env) (parsed.snapshots.map (observed env))

def candidates (keys : BundleKeys) (did : String) : List Candidate := keys.byDid.getD did []

def admittedAt (t : Option DateTime) (time : DateTime) : Bool := t.all (fun t => time ≤ t)

/-- The last candidate of greatest `(time, pinned, index)`. -/
def select (keys : BundleKeys) (did : String) (t : Option DateTime) : Option Candidate :=
  ((keys.candidates did).filter (fun c => admittedAt t c.time)).reverse.argmax
    (fun c => toLex (c.time, toLex (c.pinned, c.index)))

def onlyAfter (keys : BundleKeys) (did : String) (t : DateTime) : Bool :=
  !(keys.candidates did).isEmpty && (keys.candidates did).all (fun c => t < c.time)

def hasSnapshot (keys : BundleKeys) (did : String) (t : Option DateTime) : Bool := (keys.select did t).isSome

def document (keys : BundleKeys) (did : String) (t : Option DateTime) :
    Option (DidDocument × Basis × DateTime) := do
  let c ← keys.select did t
  let doc ← c.doc
  return (doc, if c.pinned then .pinned else .observed, c.time)

def check (env : Env) (keys : BundleKeys) (signature : Signature) (hash : ContentHash)
    (expectedDid : String) (t : Option DateTime) : Except Missing KeyCheck :=
  match Text.splitOnceChar '#' signature.keyId with
  | none => .error .malformed
  | some (did, fragment) =>
    if did ≠ expectedDid ∨ fragment = "" then .error .malformed
    else if Text.hasPrefix keylessFragmentPrefix fragment then .error .malformed
    else if Text.hasPrefix "did:key:" did then
      match resolveDidKeyUrl env signature.keyId with
      | .error _ => .error .malformed
      | .ok material => .ok {
          basis := .selfEvident
          evidenceTime := none
          inAssertion := true
          fingerprint := (fingerprintDidKeyMaterial env material).toOption
          valid := (verifyDidKeyEnvelope env signature hash).isOk }
    else match keys.document did t with
      | none => .error .noEvidence
      | some (doc, basis, time) =>
        match doc.findByFragment fragment with
        | none => .error .noEvidence
        | some method => .ok {
            basis := basis
            evidenceTime := some time
            inAssertion := doc.isAssertionMethod method.id
            fingerprint := (fingerprintVerificationMethod env method signature.algorithm).toOption
            valid := (verifySignatureWithMethod env method signature hash).isOk }

end BundleKeys

end Acdp.Chain
