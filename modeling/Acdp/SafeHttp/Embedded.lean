import Acdp.SafeHttp.Policy
import Acdp.Foundation.AddressBlock

namespace Acdp.SafeHttp

open Acdp.Types
open Acdp.Foundation (AddressBlock)
open Acdp.Foundation.AddressBlock (land_high_mask embed_contains)

namespace Ipv4Addr

def toNat (ip : Ipv4Addr) : ℕ :=
  ip.a.toNat * 2 ^ 24 + ip.b.toNat * 2 ^ 16 + ip.c.toNat * 2 ^ 8 + ip.d.toNat

def high (ip : Ipv4Addr) : UInt16 := .ofNat (ip.a.toNat * 256 + ip.b.toNat)

def low (ip : Ipv4Addr) : UInt16 := .ofNat (ip.c.toNat * 256 + ip.d.toNat)

def mapped (ip : Ipv4Addr) : Ipv6Addr := ⟨0, 0, 0, 0, 0, 0xffff, ip.high, ip.low⟩

def compatible (ip : Ipv4Addr) : Ipv6Addr := ⟨0, 0, 0, 0, 0, 0, ip.high, ip.low⟩

def nat64 (ip : Ipv4Addr) : Ipv6Addr := ⟨0x64, 0xff9b, 0, 0, 0, 0, ip.high, ip.low⟩

/-- The address itself and the three ways an IPv6 address carries it in its low 32 bits. -/
def forms (ip : Ipv4Addr) : List IpAddr :=
  [.v4 ip, .v6 ip.mapped, .v6 ip.compatible, .v6 ip.nat64]

def unspecified : Ipv4Addr := ⟨0, 0, 0, 0⟩

theorem toNat_lt (ip : Ipv4Addr) : ip.toNat < 2 ^ 32 := by
  have ha := ip.a.toNat_lt
  have hb := ip.b.toNat_lt
  have hc := ip.c.toNat_lt
  have hd := ip.d.toNat_lt
  rw [toNat]
  omega

theorem isUnspecified_iff (ip : Ipv4Addr) : ip.isUnspecified = true ↔ ip = unspecified := by
  simp [isUnspecified, unspecified, Ipv4Addr.ext_iff, and_assoc]

end Ipv4Addr

namespace Ipv6Addr

def highNat (ip : Ipv6Addr) : ℕ :=
  ip.s0.toNat * 2 ^ 80 + ip.s1.toNat * 2 ^ 64 + ip.s2.toNat * 2 ^ 48 + ip.s3.toNat * 2 ^ 32 +
    ip.s4.toNat * 2 ^ 16 + ip.s5.toNat

def toNat (ip : Ipv6Addr) : ℕ :=
  ip.highNat * 2 ^ 32 + (ip.s6.toNat * 2 ^ 16 + ip.s7.toNat)

theorem highByte_toNat (s : UInt16) : (s >>> 8).toUInt8.toNat = s.toNat / 256 := by
  have hs := s.toNat_lt
  have hdiv : (s >>> 8).toNat = s.toNat / 256 := by
    rw [UInt16.toNat_shiftRight, Nat.shiftRight_eq_div_pow]
    rfl
  rw [UInt16.toNat_toUInt8, hdiv]
  omega

theorem lowByte_toNat (s : UInt16) : (s &&& 0xff).toUInt8.toNat = s.toNat % 256 := by
  have hmod : (s &&& 0xff).toNat = s.toNat % 256 := by
    rw [UInt16.toNat_and]
    exact Nat.and_two_pow_sub_one_eq_mod s.toNat 8
  rw [UInt16.toNat_toUInt8, hmod]
  omega

theorem lowV4_toNat (ip : Ipv6Addr) : ip.lowV4.toNat = ip.s6.toNat * 2 ^ 16 + ip.s7.toNat := by
  simp only [lowV4, Ipv4Addr.toNat, highByte_toNat, lowByte_toNat]
  omega

theorem toNat_eq (ip : Ipv6Addr) : ip.toNat = ip.highNat * 2 ^ 32 + ip.lowV4.toNat := by
  rw [toNat, lowV4_toNat]

theorem lowV4_of_segments (ip : Ipv6Addr) (v4 : Ipv4Addr) (h6 : ip.s6 = v4.high) (h7 : ip.s7 = v4.low) :
    ip.lowV4 = v4 := by
  have ha := v4.a.toNat_lt
  have hb := v4.b.toNat_lt
  have hc := v4.c.toNat_lt
  have hd := v4.d.toNat_lt
  have hhigh : v4.high.toNat = v4.a.toNat * 256 + v4.b.toNat := by
    rw [Ipv4Addr.high, UInt16.toNat_ofNat']
    omega
  have hlow : v4.low.toNat = v4.c.toNat * 256 + v4.d.toNat := by
    rw [Ipv4Addr.low, UInt16.toNat_ofNat']
    omega
  apply Ipv4Addr.ext <;> apply UInt8.toNat_inj.mp <;>
    simp only [lowV4, highByte_toNat, lowByte_toNat, h6, h7, hhigh, hlow] <;> omega

theorem lowV4_isUnspecified_iff (ip : Ipv6Addr) : ip.lowV4.isUnspecified ↔ ip.s6 = 0 ∧ ip.s7 = 0 := by
  rw [Ipv4Addr.isUnspecified_iff]
  constructor
  · intro h
    have hzero : Ipv4Addr.unspecified.toNat = 0 := rfl
    have hnat := ip.lowV4_toNat
    rw [h, hzero] at hnat
    exact ⟨UInt16.toNat_inj.mp (by rw [UInt16.toNat_zero]; omega),
      UInt16.toNat_inj.mp (by rw [UInt16.toNat_zero]; omega)⟩
  · rintro ⟨h6, h7⟩
    exact lowV4_of_segments ip .unspecified h6 h7

theorem highNat_eq_zero (ip : Ipv6Addr) :
    ip.highNat = 0 ↔ ip.segments.take 5 = [0, 0, 0, 0, 0] ∧ ip.s5 = 0 := by
  simp only [highNat, segments, List.take_succ_cons, List.take_zero, List.cons.injEq, and_true,
    ← UInt16.toNat_inj, UInt16.toNat_ofNat]
  omega

theorem highNat_eq_mapped (ip : Ipv6Addr) :
    ip.highNat = 0xffff ↔ ip.segments.take 5 = [0, 0, 0, 0, 0] ∧ ip.s5 = 0xffff := by
  have h0 := ip.s0.toNat_lt
  have h1 := ip.s1.toNat_lt
  have h2 := ip.s2.toNat_lt
  have h3 := ip.s3.toNat_lt
  have h4 := ip.s4.toNat_lt
  have h5 := ip.s5.toNat_lt
  simp only [highNat, segments, List.take_succ_cons, List.take_zero, List.cons.injEq, and_true,
    ← UInt16.toNat_inj, UInt16.toNat_ofNat]
  omega

end Ipv6Addr

def forbiddenV4 : List (AddressBlock 32) :=
  [⟨(⟨0, 0, 0, 0⟩ : Ipv4Addr).toNat, 8⟩, ⟨(⟨10, 0, 0, 0⟩ : Ipv4Addr).toNat, 8⟩,
    ⟨(⟨100, 64, 0, 0⟩ : Ipv4Addr).toNat, 10⟩, ⟨(⟨127, 0, 0, 0⟩ : Ipv4Addr).toNat, 8⟩,
    ⟨(⟨169, 254, 0, 0⟩ : Ipv4Addr).toNat, 16⟩, ⟨(⟨172, 16, 0, 0⟩ : Ipv4Addr).toNat, 12⟩,
    ⟨(⟨192, 0, 0, 0⟩ : Ipv4Addr).toNat, 24⟩, ⟨(⟨192, 168, 0, 0⟩ : Ipv4Addr).toNat, 16⟩,
    ⟨(⟨198, 18, 0, 0⟩ : Ipv4Addr).toNat, 15⟩, ⟨(⟨224, 0, 0, 0⟩ : Ipv4Addr).toNat, 4⟩,
    ⟨(⟨240, 0, 0, 0⟩ : Ipv4Addr).toNat, 4⟩]

theorem mask_c0 (b : UInt8) : b &&& 0xc0 = 64 ↔ 64 ≤ b.toNat ∧ b.toNat < 128 := by
  have hb := b.toNat_lt
  have hmask : (b &&& 0xc0).toNat = b.toNat / 2 ^ 6 * 2 ^ 6 := by
    rw [UInt8.toNat_and]
    exact land_high_mask b.toNat 8 6 (by decide) hb
  rw [← UInt8.toNat_inj, hmask]
  change _ = 64 ↔ _
  omega

theorem mask_f0 (b : UInt8) : b &&& 0xf0 = 16 ↔ 16 ≤ b.toNat ∧ b.toNat < 32 := by
  have hb := b.toNat_lt
  have hmask : (b &&& 0xf0).toNat = b.toNat / 2 ^ 4 * 2 ^ 4 := by
    rw [UInt8.toNat_and]
    exact land_high_mask b.toNat 8 4 (by decide) hb
  rw [← UInt8.toNat_inj, hmask]
  change _ = 16 ↔ _
  omega

theorem isSome_ite_some {α : Type} (c : Prop) [Decidable c] (r : α) (o : Option α) :
    (if c then some r else o).isSome = true ↔ c ∨ o.isSome = true := by
  split_ifs with h <;> simp [h]

theorem classifyUnsafeV4_isSome (ip : Ipv4Addr) :
    (classifyUnsafeV4 ip).isSome ↔ ip.a = 0 ∨ ip.a = 10 ∨ (ip.a = 100 ∧ ip.b &&& 0xc0 = 64) ∨
      ip.a = 127 ∨ (ip.a = 169 ∧ ip.b = 254) ∨ (ip.a = 172 ∧ ip.b &&& 0xf0 = 16) ∨
      (ip.a = 192 ∧ ip.b = 0 ∧ ip.c = 0) ∨ (ip.a = 192 ∧ ip.b = 168) ∨
      (ip.a = 198 ∧ (ip.b = 18 ∨ ip.b = 19)) ∨ (224 ≤ ip.a ∧ ip.a ≤ 239) ∨ 240 ≤ ip.a := by
  simp only [classifyUnsafeV4, isSome_ite_some, Option.isSome_none, Bool.false_eq_true, or_false]

theorem classifyUnsafeV4_isSome_iff (ip : Ipv4Addr) :
    (classifyUnsafeV4 ip).isSome ↔ ∃ block ∈ forbiddenV4, block.contains ip.toNat := by
  have ha := ip.a.toNat_lt
  have hb := ip.b.toNat_lt
  have hc := ip.c.toNat_lt
  have hd := ip.d.toNat_lt
  rw [classifyUnsafeV4_isSome]
  simp only [forbiddenV4, List.mem_cons, List.not_mem_nil, or_false, exists_eq_or_imp,
    exists_eq_left, AddressBlock.contains, Ipv4Addr.toNat, mask_c0, mask_f0]
  simp only [← UInt8.toNat_inj, UInt8.le_iff_toNat_le, UInt8.toNat_ofNat]
  refine or_congr ?_ (or_congr ?_ (or_congr ?_ (or_congr ?_ (or_congr ?_ (or_congr ?_ (or_congr ?_
    (or_congr ?_ (or_congr ?_ (or_congr ?_ ?_))))))))) <;> omega

theorem forbiddenV4_wellFormed : ∀ block ∈ forbiddenV4, block.len ≤ 32 ∧ block.base < 2 ^ 32 := by
  decide

theorem zero_forbidden : (classifyUnsafeV4 .unspecified).isSome := by decide

def nativeV6 : List (AddressBlock 128) :=
  [⟨1, 128⟩, ⟨0, 128⟩, ⟨0xff00 * 2 ^ 112, 8⟩, ⟨0x64 * 2 ^ 112 + 0xff9b * 2 ^ 96, 32⟩,
    ⟨0xfc00 * 2 ^ 112, 7⟩, ⟨0xfe80 * 2 ^ 112, 10⟩]

def forbiddenV6 : List (AddressBlock 128) :=
  nativeV6 ++ forbiddenV4.map (AddressBlock.embed 128 0) ++ forbiddenV4.map (AddressBlock.embed 128 0xffff)

theorem exists_embedded_iff (high : ℕ) (ip : Ipv6Addr) :
    (∃ block ∈ forbiddenV4.map (AddressBlock.embed 128 high), block.contains ip.toNat) ↔
      ip.highNat = high ∧ (classifyUnsafeV4 ip.lowV4).isSome := by
  rw [classifyUnsafeV4_isSome_iff]
  constructor
  · rintro ⟨block, hmem, hcontains⟩
    obtain ⟨inner, hinner, rfl⟩ := List.mem_map.mp hmem
    obtain ⟨hlen, hbase⟩ := forbiddenV4_wellFormed inner hinner
    rw [ip.toNat_eq, embed_contains inner high _ _ hlen (by decide) hbase ip.lowV4.toNat_lt] at hcontains
    exact ⟨hcontains.1, inner, hinner, hcontains.2⟩
  · rintro ⟨hhigh, inner, hinner, hcontains⟩
    obtain ⟨hlen, hbase⟩ := forbiddenV4_wellFormed inner hinner
    refine ⟨inner.embed 128 high, List.mem_map_of_mem hinner, ?_⟩
    rw [ip.toNat_eq, embed_contains inner high _ _ hlen (by decide) hbase ip.lowV4.toNat_lt]
    exact ⟨hhigh, hcontains⟩

theorem mask_segment (s mask bits : UInt16) (k : ℕ) (hk : k ≤ 16)
    (hmask : mask.toNat = (2 ^ (16 - k) - 1) * 2 ^ k) :
    s &&& mask = bits ↔ s.toNat / 2 ^ k * 2 ^ k = bits.toNat := by
  rw [← UInt16.toNat_inj, UInt16.toNat_and, hmask, land_high_mask s.toNat 16 k hk s.toNat_lt]

theorem exists_native_iff (ip : Ipv6Addr) :
    (∃ block ∈ nativeV6, block.contains ip.toNat) ↔
      ip.isLoopback ∨ ip.isUnspecified ∨ ip.isMulticast ∨ (classifyNativeV6 ip).isSome := by
  have h0 := ip.s0.toNat_lt
  have h1 := ip.s1.toNat_lt
  have h2 := ip.s2.toNat_lt
  have h3 := ip.s3.toNat_lt
  have h4 := ip.s4.toNat_lt
  have h5 := ip.s5.toNat_lt
  have h6 := ip.s6.toNat_lt
  have h7 := ip.s7.toNat_lt
  simp only [nativeV6, List.mem_cons, List.not_mem_nil, or_false, exists_eq_or_imp, exists_eq_left,
    AddressBlock.contains, Ipv6Addr.toNat, Ipv6Addr.highNat, Ipv6Addr.isLoopback, Ipv6Addr.isUnspecified,
    Ipv6Addr.isMulticast, Ipv6Addr.segments, classifyNativeV6, isSome_ite_some, Option.isSome_none,
    Bool.false_eq_true, beq_iff_eq, mask_segment ip.s0 0xff00 0xff00 8 (by decide) rfl,
    mask_segment ip.s0 0xfe00 0xfc00 9 (by decide) rfl, mask_segment ip.s0 0xffc0 0xfe80 6 (by decide) rfl,
    List.cons.injEq, and_true]
  simp only [← UInt16.toNat_inj, UInt16.toNat_ofNat]
  refine or_congr ?_ (or_congr ?_ (or_congr ?_ (or_congr ?_ (or_congr ?_ ?_)))) <;> omega

end Acdp.SafeHttp
