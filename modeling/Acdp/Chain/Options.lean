import Acdp.Types.Identifiers
import Acdp.Types.Records
import Mathlib.Data.List.Destutter
import Mathlib.Data.List.Sort
import Mathlib.Data.Prod.Lex
import Mathlib.Data.String.Basic

namespace Acdp.Chain

open Acdp.Types
open Acdp.Crypto (utf8)

def sorted (v : List String) : List String := (v.insertionSort (· ≤ ·)).destutter (· ≠ ·)

inductive ChainError where
  | invalidEvidence (message : String)
  | invalidOptions (message : String)
deriving DecidableEq, Repr

def isTimestampByte (i : ℕ) (c : UInt8) : Bool :=
  if i = 4 ∨ i = 7 then c == 45
  else if i = 10 then c == 84
  else if i = 13 ∨ i = 16 then c == 58
  else if i = 19 then c == 46
  else if i = 23 then c == 90
  else isAsciiDigitByte c

def parseTs (env : Env) (raw : String) : Option DateTime :=
  if (utf8 raw).length = 24 ∧ (utf8 raw).zipIdx.all (fun p => isTimestampByte p.2 p.1) then
    (env.parseFromRfc3339 raw).toOption
  else none

def fmtTs (env : Env) (t : DateTime) : String := env.fmtRfc3339Ms t

def isHostnameLabel (label : String) : Bool :=
  label ≠ "" && label.toList.all (fun c => Text.isAsciiLowercase c || Text.isAsciiDigit c || c == '-') &&
    label.toList.head? != some '-' && label.toList.getLast? != some '-'

def isHostname (s : String) : Bool :=
  s ≠ "" && s.utf8ByteSize ≤ 253 && (Text.split '.' s).all isHostnameLabel

def isDid (s : String) : Bool :=
  7 ≤ s.utf8ByteSize && s.utf8ByteSize ≤ 2048 &&
    ((Text.stripPrefix "did:" s).bind (Text.splitOnceChar ':')).any (fun p =>
      p.1 ≠ "" && p.1.toList.all isDidMethodChar && p.2 ≠ "" && p.2.toList.all isDidIdChar)

def isCtxId (s : String) : Bool := (CtxId.parse s).toOption == some s

structure Limits where
  maxDepth : ℕ
  maxNodes : ℕ
  maxFanout : ℕ
deriving DecidableEq, Repr

def Limits.default : Limits where
  maxDepth := 10
  maxNodes := 500
  maxFanout := 100

def Limits.check (l : Limits) : Except ChainError Unit :=
  if Limits.default.maxDepth < l.maxDepth then
    .error (.invalidOptions ("max_depth " ++ toString l.maxDepth ++ " exceeds the default " ++
      toString Limits.default.maxDepth ++ " (RFC-ACDP-0017 §6.1(4))"))
  else if l.maxNodes = 0 ∨ Limits.default.maxNodes < l.maxNodes then
    .error (.invalidOptions ("max_nodes " ++ toString l.maxNodes ++ " is outside 1..=" ++
      toString Limits.default.maxNodes ++ " (RFC-ACDP-0017 §6.1(4))"))
  else if Limits.default.maxFanout < l.maxFanout then
    .error (.invalidOptions ("max_fanout " ++ toString l.maxFanout ++ " exceeds the default " ++
      toString Limits.default.maxFanout ++ " (RFC-ACDP-0017 §6.1(4))"))
  else .ok ()

structure PinnedSnapshot where
  did : String
  document : List (String × Json)
  instant : String
deriving DecidableEq

def PinnedSnapshot.sameAs (a b : PinnedSnapshot) : Bool :=
  a.did == b.did && Json.valueEq (.obj a.document) (.obj b.document) && a.instant == b.instant

structure Pinned where
  snapshots : List PinnedSnapshot
  registries : List String
  witnesses : List String
  vantages : List String
  keylessAttesters : List String
deriving DecidableEq

def Pinned.default : Pinned where
  snapshots := []
  registries := []
  witnesses := []
  vantages := []
  keylessAttesters := []

namespace Pinned

def conflicting : List PinnedSnapshot → List PinnedSnapshot → Option PinnedSnapshot
  | _, [] => none
  | seen, s :: rest =>
    match seen.find? (fun p => p.did == s.did && p.instant == s.instant) with
    | some prev =>
      if Json.valueEq (.obj prev.document) (.obj s.document) then conflicting (s :: seen) rest else some s
    | none => conflicting (s :: seen) rest

def checkSnapshot (env : Env) (s : PinnedSnapshot) : Except ChainError Unit :=
  if ¬ isDid s.did ∨ Text.hasPrefix "did:key:" s.did then
    .error (.invalidOptions ("pinned snapshot did '" ++ s.did ++
      "' is not a non-did:key DID (RFC-ACDP-0017 §6.3)"))
  else if parseTs env s.instant = none then
    .error (.invalidOptions ("pinned snapshot instant '" ++ s.instant ++
      "' is not a canonical millisecond timestamp"))
  else .ok ()

def check (env : Env) (keyless : Bool) (p : Pinned) : Except ChainError Unit := do
  if let some s := conflicting [] p.snapshots then
    .error (.invalidOptions ("pinned snapshots for '" ++ s.did ++ "' at " ++ s.instant ++
      " carry different documents (RFC-ACDP-0017 §6.3)"))
  p.snapshots.forM (checkSnapshot env)
  (p.registries ++ p.witnesses).forM (fun d =>
    if isDid d then .ok () else .error (.invalidOptions s!"pinned DID '{d}' is not a DID"))
  p.vantages.forM (fun h =>
    if isHostname h then .ok () else .error (.invalidOptions s!"pinned vantage '{h}' is not a hostname"))
  if keyless = false ∧ p.keylessAttesters ≠ [] then
    .error (.invalidOptions
      "pinned.keyless_attesters needs RFC-ACDP-0021 support (the `keyless` feature)")
  p.keylessAttesters.forM (fun d =>
    if isDid d then .ok ()
    else .error (.invalidOptions s!"pinned keyless attester '{d}' is not a DID"))

def snapshotLe (a b : PinnedSnapshot) : Bool := toLex (a.did, a.instant) ≤ toLex (b.did, b.instant)

def normalized (p : Pinned) : Pinned where
  snapshots := (p.snapshots.insertionSort (fun a b => snapshotLe a b)).destutter (fun a b => ¬ a.sameAs b)
  registries := sorted p.registries
  witnesses := sorted p.witnesses
  vantages := sorted p.vantages
  keylessAttesters := sorted p.keylessAttesters

def isEmpty (p : Pinned) : Bool :=
  p.snapshots.isEmpty && p.registries.isEmpty && p.witnesses.isEmpty && p.vantages.isEmpty &&
    p.keylessAttesters.isEmpty

end Pinned

structure Options where
  asOf : Option DateTime
  limits : Limits
  pinned : Option Pinned
  requireAttestedEvents : Bool
  keylessAttesters : List String
deriving DecidableEq

def Options.default : Options where
  asOf := none
  limits := .default
  pinned := none
  requireAttestedEvents := true
  keylessAttesters := []

def Options.check (env : Env) (keyless : Bool) (o : Options) : Except ChainError Unit := do
  o.limits.check
  if keyless = true ∧ o.keylessAttesters ≠ [] then
    .error (.invalidOptions ("Options.keyless_attesters is superseded: RFC-ACDP-0021 §10 takes keyless " ++
      "attesters only from pinned.keyless_attesters (use with_keyless_attesters)"))
  if let some t := o.asOf then
    if parseTs env (fmtTs env t) ≠ some t then
      .error (.invalidOptions "as_of is not millisecond-aligned (RFC-ACDP-0001 §5.3)")
  if let some p := o.pinned then
    p.check env keyless

end Acdp.Chain
