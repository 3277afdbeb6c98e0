import Acdp.Crypto.Verify
import Acdp.Types.Serialize

namespace Acdp.Crypto

open Acdp.Types

def producerTimestampPaths : List (String × Option String) :=
  [("expires_at", none), ("data_period", some "start"), ("data_period", some "end")]

def setMember (v : Json) (key : String) (value : Json) : Json :=
  match v with
  | .obj members => .obj (Json.insertMember members key value)
  | other => other

def wholeSecond : Json → Option Json
  | .str s => (Text.stripSuffix ".000Z" s).map (fun stem => .str (stem ++ "Z"))
  | _ => none

def respellAt (path : String × Option String) (v : Json) : Option Json := do
  let top ← v.get path.1
  match path.2 with
  | none => return setMember v path.1 (← wholeSecond top)
  | some nested => return setMember v path.1 (setMember top nested (← wholeSecond (← top.get nested)))

def respell (out : Json × Bool) (path : String × Option String) : Json × Bool :=
  match respellAt path out.1 with
  | some v => (v, true)
  | none => out

def legacyRendering (value : Json) : Option Json :=
  let out := producerTimestampPaths.foldl respell (value, false)
  if out.2 then some out.1 else none

def verifyTypedContentHash (env : Env) (value : Json) (expected : ContentHash) : Except AcdpError Unit :=
  match verifyContentHash env value expected with
  | .error (.hashMismatch stored recomputed) =>
    match legacyRendering value with
    | some legacy =>
      if (verifyContentHash env legacy expected).isOk then .ok () else
        .error (.hashMismatch stored recomputed)
    | none => .error (.hashMismatch stored recomputed)
  | other => other

def verifyTypedBodyHash (env : WireEnv) (body : Body) : Except AcdpError Unit :=
  verifyTypedContentHash env.toEnv (body.toValue env) body.contentHash

def verifyTypedPublishRequestHash (env : WireEnv) (req : PublishRequest) : Except AcdpError Unit :=
  verifyTypedContentHash env.toEnv (req.toValue env) req.contentHash

def rawDescribesBody (env : WireEnv) (raw : Json) (body : Body) : Bool :=
  match env.bodyDeserialize raw with
  | .error _ => false
  | .ok reparsed => Json.valueEq (reparsed.toValue env) (body.toValue env)

def verifyRawBodyHash (env : WireEnv) (raw : Json) (body : Body) : Except AcdpError Unit :=
  if rawDescribesBody env raw body then verifyContentHash env.toEnv raw body.contentHash
  else verifyTypedBodyHash env body

def verifyContextHash (env : WireEnv) (ctx : FullContext) : Except AcdpError Unit :=
  match ctx.rawBody with
  | some raw => verifyRawBodyHash env raw ctx.body
  | none => verifyTypedBodyHash env ctx.body

theorem verifyContentHash_ok_iff (env : Env) (value : Json) (expected : ContentHash) :
    verifyContentHash env value expected = .ok () ↔ computeContentHash env value = .ok expected := by
  rw [verifyContentHash]
  cases computeContentHash env value with
  | error e => simp [bind, Except.bind]
  | ok recomputed =>
    simp only [bind, Except.bind, Except.ok.injEq]
    split_ifs with hne
    · simp [hne]
    · simpa using hne

theorem verifyTypedContentHash_of_canonical (env : Env) (value : Json) (expected : ContentHash)
    (h : computeContentHash env value = .ok expected) : verifyTypedContentHash env value expected =
      .ok () := by
  rw [verifyTypedContentHash, (verifyContentHash_ok_iff env value expected).mpr h]

end Acdp.Crypto
