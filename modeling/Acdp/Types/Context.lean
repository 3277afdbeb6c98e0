import Acdp.Types.Members

namespace Acdp.Types

open Acdp.Crypto (removeKeys)
open Acdp.Types.Json (flattened)

structure StateCodec where
  toValue : RegistryState → Json
  deserialize : Json → Option RegistryState

namespace FullContext

def names : List String :=
    ["body", "registry_state", "registry_receipt", "lineage_head_receipt", "log_inclusion"]

def fields (env : WireEnv) (codec : StateCodec) (ctx : FullContext) : List (String × Json) :=
  [("body", ctx.body.toValue env), ("registry_state", codec.toValue ctx.registryState)] ++
    Json.optional "registry_receipt" id ctx.registryReceipt ++
    Json.optional "lineage_head_receipt" id ctx.lineageHeadReceipt ++
    Json.optional "log_inclusion" id ctx.logInclusion

def toValue (env : WireEnv) (codec : StateCodec) (ctx : FullContext) : Json :=
  .obj (flattened (ctx.fields env codec) ctx.extensions)

def valueField (members : List (String × Json)) (key : String) : Option Json :=
  (members.lookup key).filter (· ≠ .null)

/-- `FullContext::deserialize`: the `body` member is kept as received beside the typed body. -/
def read (env : Env) (codec : StateCodec) (v : Json) : Option FullContext := do
  let members ← v.asObject
  let raw ← members.lookup "body"
  let state ← (members.lookup "registry_state").bind codec.deserialize
  let body ← (env.bodyDeserialize raw).toOption
  return {
    body := body
    registryState := state
    registryReceipt := valueField members "registry_receipt"
    lineageHeadReceipt := valueField members "lineage_head_receipt"
    logInclusion := valueField members "log_inclusion"
    extensions := removeKeys names members
    rawBody := some raw }

end FullContext

end Acdp.Types
