import Acdp.Types.Primitives

namespace Acdp.SafeHttp

open Acdp.Types

@[ext] structure Ipv4Addr where
  a : UInt8
  b : UInt8
  c : UInt8
  d : UInt8
deriving DecidableEq, Repr

@[ext] structure Ipv6Addr where
  s0 : UInt16
  s1 : UInt16
  s2 : UInt16
  s3 : UInt16
  s4 : UInt16
  s5 : UInt16
  s6 : UInt16
  s7 : UInt16
deriving DecidableEq, Repr

inductive IpAddr where
  | v4 (ip : Ipv4Addr)
  | v6 (ip : Ipv6Addr)
deriving DecidableEq, Repr

structure SocketAddr where
  ip : IpAddr
  port : UInt16
deriving DecidableEq, Repr

def Ipv4Addr.isUnspecified (ip : Ipv4Addr) : Bool := ip.a == 0 && ip.b == 0 && ip.c == 0 && ip.d == 0

def Ipv4Addr.isLoopback (ip : Ipv4Addr) : Bool := ip.a == 127

def Ipv4Addr.display (ip : Ipv4Addr) : String :=
  ".".intercalate ([ip.a, ip.b, ip.c, ip.d].map (fun o => toString o.toNat))

def Ipv6Addr.segments (ip : Ipv6Addr) : List UInt16 :=
  [ip.s0, ip.s1, ip.s2, ip.s3, ip.s4, ip.s5, ip.s6, ip.s7]

def Ipv6Addr.isUnspecified (ip : Ipv6Addr) : Bool := ip.segments == [0, 0, 0, 0, 0, 0, 0, 0]

def Ipv6Addr.isLoopback (ip : Ipv6Addr) : Bool := ip.segments == [0, 0, 0, 0, 0, 0, 0, 1]

def Ipv6Addr.isMulticast (ip : Ipv6Addr) : Bool := ip.s0 &&& 0xff00 == 0xff00

/-- The address in the low 32 bits, as `classify_unsafe_v6` decodes it. -/
def Ipv6Addr.lowV4 (ip : Ipv6Addr) : Ipv4Addr where
  a := (ip.s6 >>> 8).toUInt8
  b := (ip.s6 &&& 0xff).toUInt8
  c := (ip.s7 >>> 8).toUInt8
  d := (ip.s7 &&& 0xff).toUInt8

def longestZeroSpan : List UInt16 → ℕ → ℕ × ℕ → ℕ × ℕ → ℕ × ℕ
  | [], _, _, longest => longest
  | s :: rest, i, current, longest =>
    if s = 0 then
      let current := if current.2 = 0 then (i, 1) else (current.1, current.2 + 1)
      longestZeroSpan rest (i + 1) current (if longest.2 < current.2 then current else longest)
    else longestZeroSpan rest (i + 1) (0, 0) longest

def hexSegments (chunk : List UInt16) : String :=
  ":".intercalate (chunk.map (fun s => String.ofList (Nat.toDigits 16 s.toNat)))

def Ipv6Addr.display (ip : Ipv6Addr) : String :=
  if ip.segments.take 6 = [0, 0, 0, 0, 0, 0xffff] then "::ffff:" ++ ip.lowV4.display
  else
    let zeroes := longestZeroSpan ip.segments 0 (0, 0) (0, 0)
    if 1 < zeroes.2 then
      hexSegments (ip.segments.take zeroes.1) ++ "::" ++ hexSegments (ip.segments.drop (zeroes.1 + zeroes.2))
    else hexSegments ip.segments

def IpAddr.display : IpAddr → String
  | .v4 ip => ip.display
  | .v6 ip => ip.display

inductive SsrfReason where
  | nonHttps
  | ipLiteral
  | invalidUrl
  | loopback
  | «private»
  | imds
  | multicastOrReserved
  | crossAuthority
deriving DecidableEq, Repr

structure SsrfRejection where
  reason : SsrfReason
  detail : String
deriving DecidableEq, Repr

def SsrfRejection.toAcdpError (r : SsrfRejection) : AcdpError := .schemaViolation r.detail

structure SsrfPolicy where
  rejectIpLiterals : Bool
  allowHttp : Bool
  allowLoopbackResolved : Bool
deriving DecidableEq, Repr

def SsrfPolicy.default : SsrfPolicy where
  rejectIpLiterals := true
  allowHttp := false
  allowLoopbackResolved := false

def classifyUnsafeV4 (ip : Ipv4Addr) : Option SsrfReason :=
  if ip.a = 0 then some .multicastOrReserved
  else if ip.a = 10 then some .private
  else if ip.a = 100 ∧ ip.b &&& 0xc0 = 64 then some .private
  else if ip.a = 127 then some .loopback
  else if ip.a = 169 ∧ ip.b = 254 then some .imds
  else if ip.a = 172 ∧ ip.b &&& 0xf0 = 16 then some .private
  else if ip.a = 192 ∧ ip.b = 0 ∧ ip.c = 0 then some .multicastOrReserved
  else if ip.a = 192 ∧ ip.b = 168 then some .private
  else if ip.a = 198 ∧ (ip.b = 18 ∨ ip.b = 19) then some .multicastOrReserved
  else if 224 ≤ ip.a ∧ ip.a ≤ 239 then some .multicastOrReserved
  else if 240 ≤ ip.a then some .multicastOrReserved
  else none

def classifyNativeV6 (ip : Ipv6Addr) : Option SsrfReason :=
  if ip.s0 = 0x0064 ∧ ip.s1 = 0xff9b then some .imds
  else if ip.s0 &&& 0xfe00 = 0xfc00 then some .private
  else if ip.s0 &&& 0xffc0 = 0xfe80 then some .imds
  else none

def classifyUnsafeV6 (ip : Ipv6Addr) : Option SsrfReason :=
  if ip.isLoopback then some .loopback
  else if ip.isUnspecified ∨ ip.isMulticast then some .multicastOrReserved
  else if ip.segments.take 5 = [0, 0, 0, 0, 0] ∧ (ip.s5 = 0 ∨ ip.s5 = 0xffff) ∧
      ¬ ip.lowV4.isUnspecified then classifyUnsafeV4 ip.lowV4
  else classifyNativeV6 ip

def SsrfPolicy.classifyIp (policy : SsrfPolicy) (ip : IpAddr) : Except SsrfRejection Unit :=
  let reason := match ip with
    | .v4 v4 => if policy.allowLoopbackResolved && v4.isLoopback then none else classifyUnsafeV4 v4
    | .v6 v6 => if policy.allowLoopbackResolved && v6.isLoopback then none else classifyUnsafeV6 v6
  match reason with
  | some reason =>
    .error ⟨reason, s!"SSRF policy: IP address '{ip.display}' is in a forbidden range"⟩
  | none => .ok ()

def SsrfPolicy.checkIp (policy : SsrfPolicy) (ip : IpAddr) : Except AcdpError Unit :=
  (policy.classifyIp ip).mapError SsrfRejection.toAcdpError

def rejectIfAnyForbidden (policy : SsrfPolicy) (host : String) : List SocketAddr → Except AcdpError Unit
  | [] => .ok ()
  | addr :: rest =>
    match policy.checkIp addr.ip with
    | .error e => .error (.schemaViolation
        (s!"SSRF policy: DNS answer for '{host}' contains a forbidden address " ++
          s!"({addr.ip.display} is disallowed); rejecting the entire resolution. {e.display}"))
    | .ok () => rejectIfAnyForbidden policy host rest

end Acdp.SafeHttp
