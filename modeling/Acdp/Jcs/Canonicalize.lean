import Acdp.Jcs.Number
import Acdp.Crypto.Hash
import Mathlib.Data.List.Sort

namespace Acdp.Jcs

open Acdp.Types
open Acdp.Crypto (utf8)

def maxJcsDepth : ℕ := 256

def hex4 (n : ℕ) : List Char :=
  [Nat.digitChar (n / 4096 % 16), Nat.digitChar (n / 256 % 16), Nat.digitChar (n / 16 % 16),
    Nat.digitChar (n % 16)]

def escapeChar (c : Char) : List Char :=
  if c = '"' then ['\\', '"']
  else if c = '\\' then ['\\', '\\']
  else if c = '\n' then ['\\', 'n']
  else if c = '\r' then ['\\', 'r']
  else if c = '\t' then ['\\', 't']
  else if c.toNat < 0x20 then '\\' :: 'u' :: hex4 c.toNat
  else [c]

def writeString (s : String) : List Char := '"' :: (s.toList.flatMap escapeChar ++ ['"'])

def depthError : AcdpError := .canonicalization s!"JSON nesting depth exceeds {maxJcsDepth}"

def keyLe {α : Type} (a b : String × α) : Prop := a.1 ≤ b.1

instance {α : Type} : DecidableRel (keyLe (α := α)) := fun a b => inferInstanceAs (Decidable (a.1 ≤ b.1))

def sortKeys {α : Type} (members : List (String × α)) : List (String × α) := members.insertionSort keyLe

def writeArray (items : List (List Char)) : List Char := '[' :: ([','].intercalate items ++ [']'])

def writeMember (member : String × List Char) : List Char := writeString member.1 ++ ':' :: member.2

def writeObject (members : List (String × List Char)) : List Char :=
  '\x7b' :: ([','].intercalate ((sortKeys members).map writeMember) ++ ['\x7d'])

mutual

def writeValue (fmt : FloatFormat) (depth : ℕ) (v : Json) : Except AcdpError (List Char) :=
  if maxJcsDepth < depth then .error depthError
  else match v with
    | .null => .ok "null".toList
    | .bool true => .ok "true".toList
    | .bool false => .ok "false".toList
    | .num n => .ok (writeNumber fmt n)
    | .str s => .ok (writeString s)
    | .arr items => (writeItems fmt (depth + 1) items).map writeArray
    | .obj members => (writeMembers fmt (depth + 1) members).map writeObject

def writeItems (fmt : FloatFormat) (depth : ℕ) : List Json → Except AcdpError (List (List Char))
  | [] => .ok []
  | v :: rest => do return (← writeValue fmt depth v) :: (← writeItems fmt depth rest)

def writeMembers (fmt : FloatFormat) (depth : ℕ) :
    List (String × Json) → Except AcdpError (List (String × List Char))
  | [] => .ok []
  | (k, v) :: rest => do return (k, ← writeValue fmt depth v) :: (← writeMembers fmt depth rest)

end

def tryCanonicalizeValue (fmt : FloatFormat) (value : Json) : Except AcdpError (List UInt8) :=
  (writeValue fmt 0 value).map (fun text => utf8 (String.ofList text))

end Acdp.Jcs
