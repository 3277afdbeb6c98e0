import Acdp.Crypto.Utf8
import Acdp.Foundation.Entries
import Acdp.Producer.Builder
import Acdp.Types.ClosedRoundTrip
import Acdp.Types.TextParts

namespace Acdp.Provenance

open Acdp.Types
open Acdp.Crypto
open Acdp.Validation (PublishEnv)
open Acdp.Foundation.Entries

/-- The library functions of the bindings; `base64UrlEncode` and `base64UrlDecode` are the unpadded
URL-safe engine. -/
structure SaltEnv extends PublishEnv where
  base64UrlEncode : List UInt8 → String

abbrev Salt := Vector UInt8 32

namespace Salt

def fromBase64url (env : SaltEnv) (s : String) : Except AcdpError Salt :=
  let length := (utf8 s).length
  if length ≠ 43 then .error (.schemaViolation s!"salt must be 43 base64url characters, got {length}")
  else match env.base64UrlDecode s with
    | .error e => .error (.schemaViolation s!"salt is not base64url: {e}")
    | .ok bytes =>
      match sizedBytes 32 bytes with
      | none => .error (.schemaViolation ("salt must be 32 bytes, got " ++ toString bytes.length))
      | some salt => .ok salt

def toBase64url (env : SaltEnv) (salt : Salt) : String := env.base64UrlEncode salt.toList

structure RoundTrips (env : SaltEnv) (salt : Salt) : Prop where
  length : (utf8 (salt.toBase64url env)).length = 43
  decode : env.base64UrlDecode (salt.toBase64url env) = .ok salt.toList

theorem fromBase64url_toBase64url (env : SaltEnv) (salt : Salt) (h : salt.RoundTrips env) :
    fromBase64url env (salt.toBase64url env) = .ok salt := by
  have hsized : sizedBytes 32 salt.toList = some salt := by
    rw [sizedBytes, dif_pos salt.length_toList]
    simp [Vector.toList]
  rw [fromBase64url]
  simp only [h.length, ne_eq, not_true_eq_false, if_false, h.decode, hsized]

end Salt

/-- `H(salt ‖ JCS(value))`, or `H(JCS(value))` without a salt. `canonicalize_value` panics where the
canonicalization fails; a panic is an error here. -/
def callHash (env : SaltEnv) (value : Json) (salt : Option Salt) : Except AcdpError String := do
  let bytes ← env.canonicalize value
  return encodeSha256Hex (env.sha256 ((salt.map (·.toList)).getD [] ++ bytes))

def truncate (s : String) (max : ℕ) : String := String.ofList (s.toList.take max)

def isHash (v : Json) : Bool := v.asStr.any isSha256Digest

def asciiDigits (bytes : List UInt8) : Bool := bytes.all (fun b => 48 ≤ b && b ≤ 57)

def isTimestampTail (tail : List UInt8) : Bool :=
  match tail with
  | [90] => true
  | 46 :: rest => rest.getLast? == some 90 && !rest.dropLast.isEmpty && asciiDigits rest.dropLast
  | _ => false

def isTimestamp (v : Json) : Bool :=
  match v.asStr with
  | none => false
  | some s =>
    let b := utf8 s
    20 ≤ b.length && asciiDigits (b.take 4) && b[4]? == some 45 && asciiDigits ((b.drop 5).take 2) &&
      b[7]? == some 45 && asciiDigits ((b.drop 8).take 2) && b[10]? == some 84 &&
      asciiDigits ((b.drop 11).take 2) &&
      b[13]? == some 58 && asciiDigits ((b.drop 14).take 2) && b[16]? == some 58 &&
      asciiDigits ((b.drop 17).take 2) && isTimestampTail (b.drop 19)

def boundedStr (v : Option Json) (max : ℕ) : Bool :=
  (v.bind Json.asStr).any (fun s => 1 ≤ s.length && s.length ≤ max)

def isBoolean (v : Json) : Bool := v.asBool.isSome

def checkKeys (what : String) (allowed : List String) (members : List (String × Json)) : Except String Unit :=
  match members.find? (fun m => m.1 ∉ allowed) with
  | some m => .error ("unknown " ++ what ++ " member '" ++ m.1 ++ "'")
  | none => .ok ()

def checkEach (members : List (String × Json)) (keys : List String) (test : Json → Bool) :
    Except String Unit :=
  keys.forM (fun k => if (members.lookup k).any test then .ok () else .error ("bad " ++ k))

def trimStartMatches (p s : String) : String :=
  (List.range s.length).foldl (fun rest _ => (Text.stripPrefix p rest).getD rest) s

def trimEndChar (c : Char) (s : String) : String := String.ofList (s.toList.reverse.dropWhile (· = c)).reverse

section DataRefs

def uriVerified (refType : DataRefType) (uri : String) (hash : ContentHash) : DataRef where
  refType := refType
  description := none
  sizeBytes := none
  format := none
  schemaVersion := none
  contentHash := some hash
  location := some (.uri uri)
  embedded := none
  extensions := []

def primaryResultJson (content : Json) : DataRef where
  refType := .primaryResult
  description := none
  sizeBytes := none
  format := some "application/json"
  schemaVersion := none
  contentHash := none
  location := none
  embedded := some ⟨.json, content, none⟩
  extensions := []

def externalLocation (base hex : String) : String := trimEndChar '/' base ++ "/" ++ hex ++ ".json"

end DataRefs

def InYears (t : DateTime) : Prop := -62167219200000000000 ≤ t.nanos ∧ t.nanos < 253402300800000000000

def IsRfc3339Ms (s : String) : Prop :=
  ∃ year month day hour minute second millis : List Char,
    s.toList = year ++ '-' :: month ++ '-' :: day ++ 'T' :: hour ++ ':' :: minute ++ ':' :: second ++
      '.' :: millis ++ ['Z'] ∧
    year.length = 4 ∧ month.length = 2 ∧ day.length = 2 ∧ hour.length = 2 ∧ minute.length = 2 ∧
    second.length = 2 ∧ millis.length = 3 ∧
    ∀ c ∈ year ++ month ++ day ++ hour ++ minute ++ second ++ millis, Text.isAsciiDigit c = true

section Shapes

theorem isAsciiDigit_iff (c : Char) : Text.isAsciiDigit c = true ↔ 48 ≤ c.toNat ∧ c.toNat ≤ 57 := by
  rw [Text.isAsciiDigit, decide_eq_true_eq, Char.le_def, Char.le_def]
  exact Iff.rfl

theorem digit_byte (c : Char) (h : Text.isAsciiDigit c = true) :
    48 ≤ c.toNat.toUInt8 ∧ c.toNat.toUInt8 ≤ 57 := by
  rw [isAsciiDigit_iff] at h
  have hnat : c.toNat.toUInt8.toNat = c.toNat := by
    rw [Nat.toUInt8_eq, UInt8.toNat_ofNat']
    omega
  rw [UInt8.le_iff_toNat_le, UInt8.le_iff_toNat_le, hnat]
  exact h

theorem isTimestamp_of_rfc3339Ms (s : String) (h : IsRfc3339Ms s) : isTimestamp (.str s) = true := by
  obtain ⟨year, month, day, hour, minute, second, millis, htext, hyear, hmonth, hday, hhour, hminute, hsecond,
    hmillis, hdigits⟩ := h
  obtain ⟨y1, y2, y3, y4, rfl⟩ := List.length_eq_four.mp hyear
  obtain ⟨mo1, mo2, rfl⟩ := List.length_eq_two.mp hmonth
  obtain ⟨d1, d2, rfl⟩ := List.length_eq_two.mp hday
  obtain ⟨h1, h2, rfl⟩ := List.length_eq_two.mp hhour
  obtain ⟨mi1, mi2, rfl⟩ := List.length_eq_two.mp hminute
  obtain ⟨s1, s2, rfl⟩ := List.length_eq_two.mp hsecond
  obtain ⟨ms1, ms2, ms3, rfl⟩ := List.length_eq_three.mp hmillis
  have hascii : ∀ c ∈ s.toList, c.toNat < 128 := by
    intro c hc
    rw [htext] at hc
    by_cases hdigit : Text.isAsciiDigit c = true
    · rw [isAsciiDigit_iff] at hdigit
      omega
    · have hmark : c = '-' ∨ c = 'T' ∨ c = ':' ∨ c = '.' ∨ c = 'Z' := by
        have hnot : c ∉ [y1, y2, y3, y4] ++ [mo1, mo2] ++ [d1, d2] ++ [h1, h2] ++ [mi1, mi2] ++ [s1, s2] ++
            [ms1, ms2, ms3] := fun hmem => hdigit (hdigits c hmem)
        simp only [List.mem_append, List.mem_cons, List.not_mem_nil, or_false, not_or] at hc hnot
        tauto
      rcases hmark with rfl | rfl | rfl | rfl | rfl <;> decide
  have hbytes : utf8 s = s.toList.map (fun c => c.toNat.toUInt8) := by
    rw [← utf8_ofList_ascii s.toList hascii, String.ofList_toList]
  have hbyte : ∀ c ∈ [y1, y2, y3, y4, mo1, mo2, d1, d2, h1, h2, mi1, mi2, s1, s2, ms1, ms2, ms3],
      48 ≤ c.toNat.toUInt8 ∧ c.toNat.toUInt8 ≤ 57 := fun c hc => digit_byte c (hdigits c hc)
  simp only [List.forall_mem_cons] at hbyte
  obtain ⟨⟨_, _⟩, ⟨_, _⟩, ⟨_, _⟩, ⟨_, _⟩, ⟨_, _⟩, ⟨_, _⟩, ⟨_, _⟩, ⟨_, _⟩, ⟨_, _⟩, ⟨_, _⟩, ⟨_, _⟩, ⟨_, _⟩,
    ⟨_, _⟩, ⟨_, _⟩, ⟨_, _⟩, ⟨_, _⟩, ⟨_, _⟩, -⟩ := hbyte
  rw [isTimestamp, Json.asStr]
  dsimp only
  rw [hbytes, htext]
  simp [asciiDigits, isTimestampTail, *]

theorem hexDigit_mem_hexEncode (digest : Merkle.Digest) (c : Char) (hc : c ∈ (hexEncode digest).toList) :
    ∃ n < 16, c = Nat.digitChar n := by
  rw [hexEncode, String.toList_ofList, List.mem_flatMap] at hc
  obtain ⟨b, -, hc⟩ := hc
  have hb := b.toNat_lt
  rw [hexByte, List.mem_cons, List.mem_singleton] at hc
  rcases hc with rfl | rfl
  · exact ⟨_, by omega, rfl⟩
  · exact ⟨_, by omega, rfl⟩

theorem hexDigit_checks : ∀ n < 16, (Nat.digitChar n).toNat < 128 ∧
    (Text.isAsciiDigit (Nat.digitChar n) || ('a' ≤ Nat.digitChar n && Nat.digitChar n ≤ 'f')) = true := by
  decide

theorem length_hexEncode (digest : Merkle.Digest) : (hexEncode digest).toList.length = 64 := by
  rw [hexEncode, String.toList_ofList, List.length_flatMap]
  have hpair : (fun b => (hexByte b).length) = fun _ => 2 := by
    funext b
    rfl
  simp [hpair, List.map_const']

theorem isHash_encodeSha256Hex (digest : Merkle.Digest) : isHash (.str (encodeSha256Hex digest)) = true := by
  have hprefix : Text.stripPrefix "sha256:" (encodeSha256Hex digest) = some (hexEncode digest) :=
    (Text.stripPrefix_eq_some_iff _ _ _).mpr rfl
  rw [isHash, Json.asStr, Option.any_some, isSha256Digest, hprefix, Option.any_some, isLowerHex64,
    Bool.and_eq_true, beq_iff_eq, List.all_eq_true]
  constructor
  · have hascii : ∀ c ∈ (hexEncode digest).toList, c.toNat < 128 := by
      intro c hc
      obtain ⟨n, hn, rfl⟩ := hexDigit_mem_hexEncode digest c hc
      exact (hexDigit_checks n hn).1
    have hbytes := congrArg List.length (utf8_ofList_ascii _ hascii)
    rw [String.ofList_toList, List.length_map, length_hexEncode] at hbytes
    exact hbytes
  · intro c hc
    obtain ⟨n, hn, rfl⟩ := hexDigit_mem_hexEncode digest c hc
    exact (hexDigit_checks n hn).2

theorem callHash_isHash (env : SaltEnv) (value : Json) (salt : Option Salt) (hash : String)
    (h : callHash env value salt = .ok hash) : isHash (.str hash) = true := by
  obtain ⟨bytes, -, h⟩ := bind_ok _ _ _ h
  obtain rfl := Except.ok.inj h
  exact isHash_encodeSha256Hex _

theorem boundedStr_truncate (s : String) (max : ℕ) (hmax : 0 < max) :
    boundedStr (some (.str (truncate s max))) max = true ↔ s ≠ "" := by
  have hlength : (truncate s max).length = min max s.length := by
    rw [truncate, String.length_ofList, List.length_take, String.length_toList]
  rw [boundedStr, Option.bind_some, Json.asStr, Option.any_some, hlength, Bool.and_eq_true, decide_eq_true_eq,
    decide_eq_true_eq, ne_eq, ← String.length_eq_zero_iff]
  omega

theorem ite_error_ok_iff {ε : Type} (c : Prop) [Decidable c] (e : ε) :
    (if c then Except.error e else Except.ok ()) = .ok () ↔ ¬ c := by
  split <;> simp [*]

theorem checkEach_ok_iff (members : List (String × Json)) (keys : List String) (test : Json → Bool) :
    checkEach members keys test = .ok () ↔ ∀ k ∈ keys, (members.lookup k).any test = true := by
  induction keys with
  | nil => simp [checkEach, pure, Except.pure]
  | cons k keys ih =>
    have hcons : checkEach members (k :: keys) test =
        (if (members.lookup k).any test then Except.ok () else .error ("bad " ++ k)) >>=
          fun _ => checkEach members keys test := rfl
    rw [hcons, seq_ok_iff, List.forall_mem_cons, ← ih]
    refine and_congr ?_ Iff.rfl
    split <;> simp [*]

theorem truncMs_inYears (t : DateTime) (h : InYears t) : InYears t.truncMs := by
  obtain ⟨hlower, hupper⟩ := h
  rw [InYears, DateTime.truncMs_nanos]
  omega

end Shapes

section Sample

variable (canonicalize : Json → Except AcdpError (List UInt8)) (sha256 : List UInt8 → Merkle.Digest)

def sampleSaltEnv : SaltEnv :=
  { plainEnv with
    canonicalize := canonicalize
    sha256 := sha256
    fmtRfc3339Ms := fun _ => stampText
    base64UrlDecode := fun _ => .ok (List.replicate 32 0)
    toRfc3339AutoSi := fun _ => stampText
    toVecLen := fun _ => 0
    base64Decode := fun _ => .error "Invalid padding"
    requestDeserialize := fun _ => .error "no request"
    debugStr := fun s => "\"" ++ s ++ "\""
    debugAnchor := fun _ => ""
    base64UrlEncode := fun _ => String.ofList (List.replicate 43 'A') }

theorem sampleSaltEnv_chrono (t : DateTime) (_ : InYears t) :
    IsRfc3339Ms ((sampleSaltEnv canonicalize sha256).fmtRfc3339Ms t) := by
  refine ⟨['2', '0', '2', '6'], ['0', '1'], ['0', '1'], ['0', '0'], ['0', '0'], ['0', '0'],
    ['0', '0', '0'], ?_, rfl, rfl, rfl, rfl, rfl, rfl, rfl, List.all_eq_true.mp (by decide)⟩
  change stampText.toList = _
  decide

def zeroSalt : Salt := Vector.replicate 32 0

theorem zeroSalt_roundTrips : zeroSalt.RoundTrips (sampleSaltEnv canonicalize sha256) := by
  refine ⟨?_, rfl⟩
  change (utf8 (String.ofList (List.replicate 43 'A'))).length = 43
  decide +kernel

theorem stamp_inYears : InYears stamp := by
  rw [InYears, stamp]
  decide

end Sample

end Acdp.Provenance
