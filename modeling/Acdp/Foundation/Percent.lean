import Mathlib.Data.List.Basic
import Mathlib.Data.String.Basic

namespace Acdp.Foundation.Percent

def hexDigit (c : Char) : Option ℕ :=
  if '0' ≤ c ∧ c ≤ '9' then some (c.toNat - 48)
  else if 'A' ≤ c ∧ c ≤ 'F' then some (c.toNat - 55)
  else if 'a' ≤ c ∧ c ≤ 'f' then some (c.toNat - 87)
  else none

def escapedByte (c h l : Char) : Option UInt8 :=
  if c = '%' then (hexDigit h).bind (fun hi => (hexDigit l).map (fun lo => (16 * hi + lo).toUInt8)) else none

def utf8Bytes (cs : List Char) : List UInt8 := cs.flatMap String.utf8EncodeChar

/-- Percent-decoding: an escape gives its byte, any other character its UTF-8. -/
def percentDecode : List Char → List UInt8
  | c :: h :: l :: rest =>
    match escapedByte c h l with
    | some b => b :: percentDecode rest
    | none => String.utf8EncodeChar c ++ percentDecode (h :: l :: rest)
  | cs => utf8Bytes cs

def unescape (p q r : Char) : List Char → List Char
  | c :: h :: l :: rest =>
    if c = '%' ∧ h = p ∧ l = q then r :: unescape p q r rest else c :: unescape p q r (h :: l :: rest)
  | cs => cs

def escape (p q r : Char) (cs : List Char) : List Char :=
  cs.flatMap (fun d => if d = r then ['%', p, q] else [d])

def OnlyEscape (p q : Char) (cs : List Char) : Prop :=
  ∀ before h l after, cs = before ++ '%' :: h :: l :: after → (hexDigit h).isSome → (hexDigit l).isSome →
    h = p ∧ l = q

theorem ne_percent_of_hexDigit (d : Char) (h : (hexDigit d).isSome) : d ≠ '%' := by
  rintro rfl
  revert h
  decide

theorem escapedByte_isSome_iff (c h l : Char) :
    (escapedByte c h l).isSome ↔ c = '%' ∧ (hexDigit h).isSome ∧ (hexDigit l).isSome := by
  unfold escapedByte
  split_ifs with hc
  · cases hexDigit h <;> cases hexDigit l <;> simp [hc]
  · simp [hc]

theorem utf8Bytes_cons (c : Char) (cs : List Char) :
    utf8Bytes (c :: cs) = String.utf8EncodeChar c ++ utf8Bytes cs := List.flatMap_cons

theorem utf8EncodeChar_length_pos (c : Char) : 0 < (String.utf8EncodeChar c).length := by
  rw [String.length_utf8EncodeChar]
  exact c.utf8Size_pos

section Escapes

variable {p q : Char}

theorem onlyEscape_of_short (cs : List Char) (hshort : ∀ c h l rest, cs ≠ c :: h :: l :: rest) :
    OnlyEscape p q cs := by
  intro before h l after hcs
  rcases before with _ | ⟨a, _ | ⟨b, _ | ⟨d, before⟩⟩⟩
  all_goals
    subst hcs
    exact absurd rfl (hshort _ _ _ _)

theorem onlyEscape_cons (c h l : Char) (rest : List Char) :
    OnlyEscape p q (c :: h :: l :: rest) ↔
      ((escapedByte c h l).isSome → h = p ∧ l = q) ∧ OnlyEscape p q (h :: l :: rest) := by
  constructor
  · intro honly
    constructor
    · intro hesc
      obtain ⟨rfl, hh, hl⟩ := (escapedByte_isSome_iff c h l).mp hesc
      exact honly [] h l rest rfl hh hl
    · intro before h' l' after hcs
      exact honly (c :: before) h' l' after (by rw [hcs, List.cons_append])
  · rintro ⟨hhead, htail⟩ before h' l' after hcs hh hl
    cases before with
    | nil =>
      simp only [List.nil_append, List.cons.injEq] at hcs
      obtain ⟨rfl, rfl, rfl, rfl⟩ := hcs
      exact hhead ((escapedByte_isSome_iff _ _ _).mpr ⟨rfl, hh, hl⟩)
    | cons a before =>
      obtain ⟨-, hcs⟩ := List.cons.inj hcs
      exact htail before h' l' after hcs hh hl

theorem onlyEscape_skip (c : Char) (rest : List Char) (hc : c ≠ '%') :
    OnlyEscape p q (c :: rest) ↔ OnlyEscape p q rest := by
  constructor
  · intro honly before h l after hcs
    exact honly (c :: before) h l after (by rw [hcs, List.cons_append])
  · intro honly before h l after hcs
    cases before with
    | nil => exact absurd (List.cons.inj hcs).1 hc
    | cons a before => exact honly before h l after (List.cons.inj hcs).2

theorem onlyEscape_escape (c h l : Char) (rest : List Char) (hesc : (escapedByte c h l).isSome) :
    OnlyEscape p q (c :: h :: l :: rest) ↔ (h = p ∧ l = q) ∧ OnlyEscape p q rest := by
  obtain ⟨-, hh, hl⟩ := (escapedByte_isSome_iff c h l).mp hesc
  rw [onlyEscape_cons, onlyEscape_skip h _ (ne_percent_of_hexDigit h hh),
    onlyEscape_skip l _ (ne_percent_of_hexDigit l hl)]
  exact and_congr_left' ⟨fun h => h hesc, fun h _ => h⟩

end Escapes

section Agreement

variable {p q r : Char} (hbyte : (escapedByte '%' p q).map (fun b => [b]) = some (String.utf8EncodeChar r))
include hbyte

theorem isSome_of_pair : (escapedByte '%' p q).isSome := by
  cases h : escapedByte '%' p q with
  | none =>
    rw [h] at hbyte
    cases hbyte
  | some b => rfl

omit hbyte in
theorem unescape_skip (c : Char) (rest : List Char) (hc : c ≠ '%') :
    unescape p q r (c :: rest) = c :: unescape p q r rest := by
  rcases rest with _ | ⟨h, _ | ⟨l, rest⟩⟩
  · rfl
  · rfl
  · rw [unescape, if_neg (fun h => hc h.1)]

omit hbyte in
theorem unescape_other (c h l : Char) (rest : List Char) (hesc : (escapedByte c h l).isSome)
    (hother : ¬ (h = p ∧ l = q)) : unescape p q r (c :: h :: l :: rest) =
      c :: h :: l :: unescape p q r rest := by
  obtain ⟨-, hh, hl⟩ := (escapedByte_isSome_iff c h l).mp hesc
  rw [unescape, if_neg (fun h => hother h.2), unescape_skip h _ (ne_percent_of_hexDigit h hh),
    unescape_skip l _ (ne_percent_of_hexDigit l hl)]

theorem percentDecode_length_iff (cs : List Char) :
    (percentDecode cs).length ≤ (utf8Bytes (unescape p q r cs)).length ∧
      (OnlyEscape p q cs → percentDecode cs = utf8Bytes (unescape p q r cs)) ∧
      (¬ OnlyEscape p q cs → (percentDecode cs).length < (utf8Bytes (unescape p q r cs)).length) := by
  induction cs using percentDecode.induct with
  | case1 c h l rest b hb ih =>
    have hsome : (escapedByte c h l).isSome := by rw [hb]; rfl
    obtain ⟨hle, heq, hlt⟩ := ih
    rw [percentDecode, hb, onlyEscape_escape c h l rest hsome]
    by_cases hpq : h = p ∧ l = q
    · have hun : utf8Bytes (unescape p q r (c :: h :: l :: rest)) = b :: utf8Bytes (unescape p q r rest) := by
        obtain ⟨rfl, rfl⟩ := hpq
        obtain ⟨rfl, -⟩ := (escapedByte_isSome_iff c h l).mp hsome
        rw [hb] at hbyte
        rw [unescape, if_pos ⟨rfl, rfl, rfl⟩, utf8Bytes_cons, ← Option.some.inj hbyte]
        rfl
      rw [hun]
      refine ⟨Nat.succ_le_succ hle, fun h => by rw [heq h.2], fun h => Nat.succ_lt_succ (hlt ?_)⟩
      exact fun honly => h ⟨hpq, honly⟩
    · rw [unescape_other c h l rest hsome hpq, utf8Bytes_cons, utf8Bytes_cons, utf8Bytes_cons]
      have hc := utf8EncodeChar_length_pos c
      have hh := utf8EncodeChar_length_pos h
      have hl := utf8EncodeChar_length_pos l
      simp only [List.length_append, List.length_cons]
      exact ⟨by omega, fun h => absurd h.1 hpq, fun _ => by omega⟩
  | case2 c h l rest hb ih =>
    obtain ⟨hle, heq, hlt⟩ := ih
    have hnone : ¬ (escapedByte c h l).isSome := by rw [hb]; decide
    have hun : unescape p q r (c :: h :: l :: rest) = c :: unescape p q r (h :: l :: rest) := by
      rw [unescape, if_neg]
      rintro ⟨rfl, rfl, rfl⟩
      exact hnone (isSome_of_pair hbyte)
    have honly : OnlyEscape p q (c :: h :: l :: rest) ↔ OnlyEscape p q (h :: l :: rest) := by
      rw [onlyEscape_cons]
      exact and_iff_right (fun h => absurd h hnone)
    rw [percentDecode, hb, hun, utf8Bytes_cons, honly]
    simp only [List.length_append, Nat.add_le_add_iff_left, Nat.add_lt_add_iff_left]
    exact ⟨hle, fun h => by rw [heq h], hlt⟩
  | case3 cs hshort =>
    have hcs : percentDecode cs = utf8Bytes cs := percentDecode.eq_2 cs hshort
    have hun : unescape p q r cs = cs := unescape.eq_2 p q r cs hshort
    rw [hcs, hun]
    exact ⟨le_rfl, fun _ => rfl, fun h => absurd (onlyEscape_of_short cs (by simpa using hshort)) h⟩

theorem percentDecode_eq_iff (cs : List Char) :
    percentDecode cs = utf8Bytes (unescape p q r cs) ↔ OnlyEscape p q cs := by
  obtain ⟨-, heq, hlt⟩ := percentDecode_length_iff hbyte cs
  refine ⟨fun h => ?_, heq⟩
  by_contra honly
  exact absurd (congrArg List.length h) (hlt honly).ne

theorem onlyEscape_of_escape (cs : List Char) (hcs : '%' ∉ cs) : OnlyEscape p q (escape p q r cs) := by
  induction cs with
  | nil => exact onlyEscape_of_short _ (by simp [escape])
  | cons d cs ih =>
    rw [List.mem_cons, not_or] at hcs
    rw [escape, List.flatMap_cons]
    split_ifs with hd
    · exact (onlyEscape_escape '%' p q _ (isSome_of_pair hbyte)).mpr ⟨⟨rfl, rfl⟩, ih hcs.2⟩
    · exact (onlyEscape_skip d _ (Ne.symm hcs.1)).mpr (ih hcs.2)

end Agreement

theorem mem_unescape (p q r : Char) (cs : List Char) (c : Char) (hc : c ∈ unescape p q r cs) :
    c = r ∨ c ∈ cs := by
  induction cs using unescape.induct p q with
  | case1 d h l rest hmatch ih =>
    rw [unescape, if_pos hmatch, List.mem_cons] at hc
    rcases hc with rfl | hc
    · exact .inl rfl
    · exact (ih hc).imp_right (fun h => by simp [h])
  | case2 d h l rest hmatch ih =>
    rw [unescape, if_neg hmatch, List.mem_cons] at hc
    rcases hc with rfl | hc
    · exact .inr List.mem_cons_self
    · exact (ih hc).imp_right (List.mem_cons_of_mem _)
  | case3 cs hshort =>
    rw [unescape.eq_2 p q r cs hshort] at hc
    exact .inr hc

theorem unescape_escape (p q r : Char) (cs : List Char) (hcs : '%' ∉ cs) : unescape p q r
    (escape p q r cs) = cs := by
  induction cs with
  | nil => rfl
  | cons d cs ih =>
    rw [List.mem_cons, not_or] at hcs
    rw [escape, List.flatMap_cons]
    split_ifs with hd
    · rw [List.cons_append, List.cons_append, List.singleton_append, unescape, if_pos ⟨rfl, rfl, rfl⟩, hd]
      exact congrArg (r :: ·) (ih hcs.2)
    · rw [List.singleton_append, unescape_skip d _ (Ne.symm hcs.1)]
      exact congrArg (d :: ·) (ih hcs.2)

end Acdp.Foundation.Percent
