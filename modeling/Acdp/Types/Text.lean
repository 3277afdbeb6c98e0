import Mathlib.Algebra.Group.Int.Defs
import Mathlib.Data.List.Basic
import Mathlib.Data.List.Infix
import Mathlib.Data.String.Basic

namespace Acdp.Types.Text

def stripPrefix (p s : String) : Option String :=
  (p.toList.isPrefixOf? s.toList).map String.ofList

def stripSuffix (p s : String) : Option String :=
  (p.toList.reverse.isPrefixOf? s.toList.reverse).map (fun rest => String.ofList rest.reverse)

def splitOnceChar (c : Char) (s : String) : Option (String × String) :=
  match s.toList.dropWhile (· ≠ c) with
  | [] => none
  | _ :: rest => some (String.ofList (s.toList.takeWhile (· ≠ c)), String.ofList rest)

def splitOnceList (sep : List Char) : List Char → Option (List Char × List Char)
  | [] => if sep = [] then some ([], []) else none
  | c :: cs =>
    match sep.isPrefixOf? (c :: cs) with
    | some rest => some ([], rest)
    | none => (splitOnceList sep cs).map (fun p => (c :: p.1, p.2))

def splitOnce (sep s : String) : Option (String × String) :=
  (splitOnceList sep.toList s.toList).map (fun p => (String.ofList p.1, String.ofList p.2))

def beforeChar (c : Char) (s : String) : String := String.ofList (s.toList.takeWhile (· ≠ c))

def replaceChar (c : Char) (replacement : String) (s : String) : String :=
  String.ofList (s.toList.flatMap (fun d => if d = c then replacement.toList else [d]))

def split (c : Char) (s : String) : List String := (s.toList.splitOn c).map String.ofList

def contains (s needle : String) : Bool := needle.toList <:+: s.toList

def isWhitespace (c : Char) : Bool :=
  (0x09 ≤ c.toNat ∧ c.toNat ≤ 0x0D) ∨ c.toNat = 0x20 ∨ c.toNat = 0x85 ∨ c.toNat = 0xA0 ∨
    c.toNat = 0x1680 ∨ (0x2000 ≤ c.toNat ∧ c.toNat ≤ 0x200A) ∨ c.toNat = 0x2028 ∨
    c.toNat = 0x2029 ∨ c.toNat = 0x202F ∨ c.toNat = 0x205F ∨ c.toNat = 0x3000

def trim (s : String) : String :=
  String.ofList ((s.toList.dropWhile isWhitespace).reverse.dropWhile isWhitespace).reverse

def isAsciiDigit (c : Char) : Bool := '0' ≤ c ∧ c ≤ '9'

def isAsciiLowercase (c : Char) : Bool := 'a' ≤ c ∧ c ≤ 'z'

def isAsciiUppercase (c : Char) : Bool := 'A' ≤ c ∧ c ≤ 'Z'

def isAsciiAlphanumeric (c : Char) : Bool :=
  isAsciiDigit c || isAsciiLowercase c || isAsciiUppercase c

def hasPrefix (p s : String) : Bool := p.toList.isPrefixOf s.toList

def parseDigits (cs : List Char) : Option ℕ :=
  if cs ≠ [] ∧ cs.all Char.isDigit then some (Nat.ofDigitChars 10 cs 0) else none

def parseSigned : List Char → Option ℤ
  | '-' :: cs => (parseDigits cs).map (-Int.ofNat ·)
  | '+' :: cs => (parseDigits cs).map Int.ofNat
  | cs => (parseDigits cs).map Int.ofNat

def parseI64 (s : String) : Option ℤ :=
  (parseSigned s.toList).filter (fun n => decide (-2 ^ 63 ≤ n ∧ n < 2 ^ 63))

def parseU64 (s : String) : Option ℕ :=
  (match s.toList with
    | '+' :: cs => parseDigits cs
    | cs => parseDigits cs).filter (fun n => decide (n < 2 ^ 64))

end Acdp.Types.Text
