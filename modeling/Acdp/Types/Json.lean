import Mathlib.Data.List.Basic

namespace Acdp.Types

/-- `serde_json::Number`; a float is kept as its IEEE 754 bits. -/
inductive Number where
  | posInt (n : UInt64)
  | negInt (n : Int64)
  | float (bits : UInt64)
deriving DecidableEq, Repr

inductive Json where
  | null
  | bool (b : Bool)
  | num (n : Number)
  | str (s : String)
  | arr (items : List Json)
  | obj (members : List (String × Json))

namespace Json

mutual

def decEq : (a b : Json) → Decidable (a = b)
  | .null, .null => .isTrue rfl
  | .bool a, .bool b => decidable_of_iff (a = b) (by simp)
  | .num a, .num b => decidable_of_iff (a = b) (by simp)
  | .str a, .str b => decidable_of_iff (a = b) (by simp)
  | .arr a, .arr b => @decidable_of_iff _ (a = b) (by simp) (decEqItems a b)
  | .obj a, .obj b => @decidable_of_iff _ (a = b) (by simp) (decEqMembers a b)
  | .null, .bool _ | .null, .num _ | .null, .str _ | .null, .arr _ | .null, .obj _
  | .bool _, .null | .bool _, .num _ | .bool _, .str _ | .bool _, .arr _ | .bool _, .obj _
  | .num _, .null | .num _, .bool _ | .num _, .str _ | .num _, .arr _ | .num _, .obj _
  | .str _, .null | .str _, .bool _ | .str _, .num _ | .str _, .arr _ | .str _, .obj _
  | .arr _, .null | .arr _, .bool _ | .arr _, .num _ | .arr _, .str _ | .arr _, .obj _
  | .obj _, .null | .obj _, .bool _ | .obj _, .num _ | .obj _, .str _ | .obj _, .arr _ =>
    .isFalse (by simp)

def decEqItems : (a b : List Json) → Decidable (a = b)
  | [], [] => .isTrue rfl
  | [], _ :: _ | _ :: _, [] => .isFalse (by simp)
  | a :: as, b :: bs =>
    @decidable_of_iff _ (a = b ∧ as = bs) (by simp)
      (@instDecidableAnd _ _ (decEq a b) (decEqItems as bs))

def decEqMembers : (a b : List (String × Json)) → Decidable (a = b)
  | [], [] => .isTrue rfl
  | [], _ :: _ | _ :: _, [] => .isFalse (by simp)
  | (k, a) :: as, (l, b) :: bs =>
    @decidable_of_iff _ (k = l ∧ a = b ∧ as = bs) (by simp [and_assoc])
      (@instDecidableAnd _ _ inferInstance
        (@instDecidableAnd _ _ (decEq a b) (decEqMembers as bs)))

end

instance : DecidableEq Json := decEq

def numberEq : Number → Number → Bool
  | .float a, .float b =>
    a == b || ((a == 0 || a == 0x8000000000000000) && (b == 0 || b == 0x8000000000000000))
  | a, b => a == b

mutual

/-- `Value` equality: the order of an object's members is immaterial. -/
def valueEq : Json → Json → Bool
  | .null, .null => true
  | .bool a, .bool b => a == b
  | .num a, .num b => numberEq a b
  | .str a, .str b => a == b
  | .arr a, .arr b => itemsEq a b
  | .obj a, .obj b => a.length == b.length && membersEq a b
  | _, _ => false

def itemsEq : List Json → List Json → Bool
  | [], [] => true
  | a :: as, b :: bs => valueEq a b && itemsEq as bs
  | _, _ => false

def membersEq : List (String × Json) → List (String × Json) → Bool
  | [], _ => true
  | (k, a) :: as, bs =>
    (match bs.lookup k with
      | some b => valueEq a b
      | none => false) && membersEq as bs

end

def asObject : Json → Option (List (String × Json))
  | .obj members => some members
  | _ => none

def asStr : Json → Option String
  | .str s => some s
  | _ => none

def asBool : Json → Option Bool
  | .bool b => some b
  | _ => none

def asArray : Json → Option (List Json)
  | .arr items => some items
  | _ => none

def get (v : Json) (key : String) : Option Json :=
  v.asObject.bind (·.lookup key)

end Json

end Acdp.Types
