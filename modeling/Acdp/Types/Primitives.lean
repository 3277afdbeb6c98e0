import Acdp.Types.Json
import Acdp.Types.Text
import Mathlib.Order.Basic
import Mathlib.Order.Lattice
import Mathlib.Algebra.Order.Ring.Int

namespace Acdp.Types

abbrev CtxId := String
abbrev LineageId := String
abbrev ContentHash := String
abbrev AgentDid := String

def CtxId.authority (id : CtxId) : String :=
  ((Text.stripPrefix "acdp://" id).map (Text.beforeChar '/')).getD ""

def authorityToDidWeb (authority : String) : String :=
  "did:web:" ++ Text.replaceChar ':' "%3A" authority

/-- A `DateTime<Utc>` in nanoseconds since the epoch, between chrono's `MIN_UTC` and `MAX_UTC`. -/
@[ext] structure DateTime where
  nanos : Int
  lower : -8334601228800000000000 ≤ nanos
  upper : nanos ≤ 8210266876799999999999
deriving DecidableEq, Repr

namespace DateTime

instance : LinearOrder DateTime :=
  LinearOrder.lift' DateTime.nanos (fun _ _ h => DateTime.ext h)

theorem le_iff (a b : DateTime) : a ≤ b ↔ a.nanos ≤ b.nanos := Iff.rfl

theorem lt_iff (a b : DateTime) : a < b ↔ a.nanos < b.nanos := lt_iff_lt_of_le_iff_le Iff.rfl

def timestampMillis (t : DateTime) : Int := t.nanos / 1000000

def fromTimestampMillis (ms : Int) : Option DateTime :=
  if h : -8334601228800000000000 ≤ ms * 1000000 ∧ ms * 1000000 ≤ 8210266876799999999999 then
    some ⟨ms * 1000000, h.1, h.2⟩
  else none

def truncMs (t : DateTime) : DateTime := (fromTimestampMillis t.timestampMillis).getD t

theorem truncMs_nanos (t : DateTime) : t.truncMs.nanos = t.nanos / 1000000 * 1000000 := by
  have hl := t.lower
  have hu := t.upper
  rw [truncMs, fromTimestampMillis, timestampMillis, dif_pos ⟨by omega, by omega⟩, Option.getD_some]

end DateTime

inductive Visibility where
  | «public»
  | restricted
  | «private»
deriving DecidableEq, Repr

inductive ContextType where
  | dataSnapshot
  | analysis
  | prediction
  | alert
  | keyRevocation
  | custom (name : String)
deriving DecidableEq, Repr

def ContextType.wire : ContextType → String
  | .dataSnapshot => "data_snapshot"
  | .analysis => "analysis"
  | .prediction => "prediction"
  | .alert => "alert"
  | .keyRevocation => "key-revocation"
  | .custom name => name

def ContextType.isKeyRevocation : ContextType → Bool
  | .keyRevocation => true
  | .custom name => name == "acdp:key-revocation"
  | _ => false

inductive Status where
  | active
  | superseded
  | expired
  | retracted
  | other (name : String)
deriving DecidableEq, Repr

def Status.asStr : Status → String
  | .active => "active"
  | .superseded => "superseded"
  | .expired => "expired"
  | .retracted => "retracted"
  | .other name => name

inductive SupersessionReason where
  | notFound
  | lineageMismatch
  | versionMismatch
  | alreadySuperseded
  | crossRegistrySupersessionUnsupported
  | lineageWalkFailed
  | revocationTypeMismatch
  | other
deriving DecidableEq, Repr

def SupersessionReason.debug : SupersessionReason → String
  | .notFound => "NotFound"
  | .lineageMismatch => "LineageMismatch"
  | .versionMismatch => "VersionMismatch"
  | .alreadySuperseded => "AlreadySuperseded"
  | .crossRegistrySupersessionUnsupported => "CrossRegistrySupersessionUnsupported"
  | .lineageWalkFailed => "LineageWalkFailed"
  | .revocationTypeMismatch => "RevocationTypeMismatch"
  | .other => "Other"

inductive AcdpError where
  | invalidBody (message : String)
  | missingField (field : String)
  | schemaViolation (message : String)
  | notFound (message : String)
  | notAuthorized (message : String)
  | duplicatePublish (message : String)
  | supersededTarget (reason : SupersessionReason) (message : String)
  | invalidLifecycleTransition (message : String)
  | invalidCursor (message : String)
  | cursorExpired
  | invalidLogProof (message : String)
  | invalidReceipt (message : String)
  | invalidSignature (message : String)
  | invalidWitnessCosignature (message : String)
  | keyResolution (message : String)
  | keyNotAuthorized (message : String)
  | unsupportedAlgorithm (message : String)
  | canonicalization (message : String)
  | serialization (message : String)
  | registryInternal (message : String)
  | hashMismatch (stored recomputed : ContentHash)
  | dataRefHashMismatch (message : String)
  | embeddedTooLarge (message : String)
  | keyResolutionUnreachable (message : String)
deriving DecidableEq, Repr

def AcdpError.display : AcdpError → String
  | .invalidBody message => s!"invalid body: {message}"
  | .missingField field => s!"missing required field: {field}"
  | .schemaViolation message => s!"schema violation: {message}"
  | .notFound message => s!"not found: {message}"
  | .notAuthorized message => s!"not authorized: {message}"
  | .duplicatePublish message => s!"duplicate publish: {message}"
  | .supersededTarget reason message =>
    "superseded target rejected (" ++ reason.debug ++ "): " ++ message
  | .invalidLifecycleTransition message => s!"invalid lifecycle transition: {message}"
  | .invalidCursor message => s!"invalid cursor: {message}"
  | .cursorExpired => "search cursor expired"
  | .invalidLogProof message => s!"invalid transparency-log proof: {message}"
  | .invalidReceipt message => s!"invalid registry receipt: {message}"
  | .invalidSignature message => s!"invalid signature: {message}"
  | .invalidWitnessCosignature message => s!"invalid witness cosignature: {message}"
  | .keyResolution message => s!"key resolution failed: {message}"
  | .keyNotAuthorized message => s!"key not authorized: {message}"
  | .unsupportedAlgorithm message => s!"unsupported algorithm: {message}"
  | .canonicalization message => s!"JCS canonicalization failed: {message}"
  | .serialization message => s!"serialization failed: {message}"
  | .registryInternal message => s!"registry internal error: {message}"
  | .hashMismatch stored recomputed =>
    s!"content_hash mismatch\n  stored:     {stored}\n  recomputed: {recomputed}"
  | .dataRefHashMismatch message => s!"data_ref hash mismatch: {message}"
  | .embeddedTooLarge message => s!"embedded data reference too large: {message}"
  | .keyResolutionUnreachable message => s!"key resolution unreachable (transient): {message}"

end Acdp.Types
