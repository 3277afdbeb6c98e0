import Acdp.Crypto.Utf8
import Acdp.Did.Web
import Acdp.Foundation.Delimited
import Acdp.Foundation.Percent
import Acdp.Jcs.Injective
import Acdp.Types.Identifiers
import Acdp.Types.TextParts

namespace Acdp.Did

open Acdp.Types
open Acdp.Crypto (utf8 utf8_ofList)
open Acdp.Foundation.Percent
open Acdp.Foundation.Delimited (run_delimited)

def didWebToAuthority (did : String) : Option String :=
  (Text.stripPrefix "did:web:" did).map (fun rest =>
    String.ofList (unescape '3' 'A' ':' (Text.beforeChar ':' rest).toList))

def DecodesPercent (decode : String → Except String String) : Prop :=
  ∀ s t, decode s = .ok t ↔ utf8 t = percentDecode s.toList

def isAuthorityChar (c : Char) : Bool := c ≠ '/' ∧ c ≠ '?' ∧ c ≠ '#'

def urlParts (url : String) : Option (String × String) :=
  (Text.stripPrefix "https://" url).map (fun rest =>
    (String.ofList (rest.toList.takeWhile isAuthorityChar),
      String.ofList (rest.toList.dropWhile isAuthorityChar)))

def documentPath (segments : List String) : String :=
  if segments = [] then "/.well-known/did.json" else "/" ++ "/".intercalate segments ++ "/did.json"

def segments (did : String) : List String := ((Text.stripPrefix "did:web:" did).map (Text.split ':')).getD []

/-- The document of `did` is fetched from the authority that `did` is compared under. -/
structure MapsAgree (did url : String) : Prop where
  authority : (urlParts url).map Prod.fst = didWebToAuthority did
  noUserinfo : ∀ p ∈ urlParts url, '@' ∉ p.1.toList
  path : (urlParts url).map Prod.snd = some (documentPath (segments did).tail)

def firstSegment (did : String) : String := (segments did).headD ""

def IsHostPort (authority : String) : Prop :=
  ∃ host, isValidDnsAuthority host = true ∧ (authority = host ∨
    ∃ port, (∀ c ∈ port.toList, Text.isAsciiDigit c = true) ∧ authority = host ++ ":" ++ port)

theorem utf8_ofList_eq (l : List Char) : utf8 (String.ofList l) = utf8Bytes l := by
  rw [utf8, String.toByteArray_ofList, List.utf8Encode, utf8Bytes]
  simp

section Text

theorem split_eq_cons (c : Char) (s : String) : ∃ tail, Text.split c s = Text.beforeChar c s :: tail := by
  have hlist : ∀ l : List Char, ∃ tail, l.splitOn c = l.takeWhile (· ≠ c) :: tail := by
    intro l
    induction l with
    | nil => exact ⟨[], rfl⟩
    | cons d l ih =>
      obtain ⟨tail, htail⟩ := ih
      by_cases hd : d = c
      · exact ⟨l.splitOn c, by simp [hd, List.splitOn_cons_eq_if_modifyHead]⟩
      · exact ⟨tail, by simp [hd, List.splitOn_cons_eq_if_modifyHead, htail]⟩
  obtain ⟨tail, htail⟩ := hlist s.toList
  exact ⟨tail.map String.ofList, by rw [Text.split, htail, List.map_cons, Text.beforeChar]⟩

theorem split_eq_singleton (c : Char) (s : String) (h : c ∉ s.toList) : Text.split c s = [s] := by
  rw [Text.split, List.splitOn_eq_singleton h, List.map_singleton, String.ofList_toList]

theorem mem_of_mem_beforeChar (c d : Char) (s : String) (h : d ∈ (Text.beforeChar c s).toList) :
    d ∈ s.toList ∧ d ≠ c := by
  rw [Text.beforeChar, String.toList_ofList] at h
  exact ⟨(List.takeWhile_prefix _).subset h, by simpa using List.mem_takeWhile_imp h⟩

theorem mem_piece_of_mem (c d : Char) (l : List Char) (hd : d ∈ l) (hne : d ≠ c) :
    ∃ p ∈ l.splitOn c, d ∈ p := by
  induction l with
  | nil => cases hd
  | cons e l ih =>
    obtain ⟨p, pieces, hpieces⟩ := List.exists_cons_of_ne_nil (List.splitOn_ne_nil c l)
    rw [List.splitOn_cons_eq_if_modifyHead, hpieces]
    rcases List.mem_cons.mp hd with rfl | hd
    · rw [if_neg (by simpa using hne)]
      exact ⟨_, List.mem_cons_self, List.mem_cons_self⟩
    · obtain ⟨q, hq, hdq⟩ := ih hd
      rw [hpieces] at hq
      split_ifs
      · exact ⟨q, List.mem_cons_of_mem _ hq, hdq⟩
      · rcases List.mem_cons.mp hq with rfl | hq
        · exact ⟨_, List.mem_cons_self, List.mem_cons_of_mem _ hdq⟩
        · exact ⟨q, List.mem_cons_of_mem _ hq, hdq⟩

theorem hostChar_of_isValidDnsAuthority (s : String) (h : isValidDnsAuthority s = true) (c : Char)
    (hc : c ∈ s.toList) : c = '.' ∨ (Text.isAsciiLowercase c || Text.isAsciiDigit c || c == '-') = true := by
  refine or_iff_not_imp_left.mpr (fun hne => ?_)
  obtain ⟨p, hp, hcp⟩ := mem_piece_of_mem '.' c s.toList hc hne
  simp only [isValidDnsAuthority, Bool.and_eq_true, List.all_eq_true] at h
  have hlabel := h.2 (String.ofList p) (List.mem_map_of_mem hp)
  simp only [isDnsLabel, Bool.and_eq_true, List.all_eq_true] at hlabel
  exact hlabel.2 c (by rwa [String.toList_ofList])

end Text

theorem parse_eq_ok (did parsed : String) (h : AgentDid.parse did = .ok parsed) :
    parsed = did ∧ ∃ method id : String, ':' ∉ method.toList ∧ did = "did:" ++ method ++ ":" ++ id ∧
      ∀ c ∈ id.toList, isDidIdChar c = true := by
  rw [AgentDid.parse] at h
  split_ifs at h
  split at h
  · cases h
  next rest hrest =>
    split at h
    · cases h
    next method id hsplit =>
      split_ifs at h with hmethod hid
      obtain ⟨hlist, hmem⟩ := Text.splitOnceChar_eq_some ':' rest method id hsplit
      refine ⟨(Except.ok.inj h).symm, method, id, hmem, ?_, ?_⟩
      · rw [(Text.stripPrefix_eq_some_iff _ _ _).mp hrest, ← String.toList_inj]
        simp [hlist]
      · simpa using (not_or.mp hid).2

theorem isDidIdChar_of_parseWeb (did parsed rest : String) (h : AgentDid.parseWeb did = .ok parsed)
    (hrest : Text.stripPrefix "did:web:" did = some rest) : ∀ c ∈ rest.toList, isDidIdChar c = true := by
  cases hparse : AgentDid.parse did with
  | error e =>
    rw [AgentDid.parseWeb, hparse] at h
    cases h
  | ok p =>
    obtain ⟨-, method, id, hmethod, hdid, hid⟩ := parse_eq_ok did p hparse
    rw [(Text.stripPrefix_eq_some_iff _ _ _).mp hrest, ← String.toList_inj] at hdid
    have hlist : "web".toList ++ ':' :: rest.toList = method.toList ++ ':' :: id.toList := by simpa using hdid
    have hstop : ∀ (t : List Char), ∀ c ∈ (':' :: t).head?, decide (c ≠ ':') = false := by simp
    obtain ⟨-, hid'⟩ := run_delimited (fun c => decide (c ≠ ':')) _ _ _ _ (List.all_eq_true.mp (by decide))
      (fun c hc => decide_eq_true (fun h => hmethod (h ▸ hc))) (hstop _) (hstop _) hlist
    rw [(List.cons.inj hid').2]
    exact hid

section Url

variable (env : WebEnv)

theorem didWebToUrl_of_rest (did rest : String) (hrest : Text.stripPrefix "did:web:" did = some rest) :
    didWebToUrl env did =
      match env.urlDecode (Text.beforeChar ':' rest) with
      | .error e => .error (.keyResolution s!"authority decode: {e}")
      | .ok authority => .ok ("https://" ++ (authority ++ documentPath (Text.split ':' rest).tail)) := by
  obtain ⟨tail, htail⟩ := split_eq_cons ':' rest
  rw [didWebToUrl, hrest]
  dsimp only
  rw [htail, List.headD_cons, List.tail_cons]
  cases env.urlDecode (Text.beforeChar ':' rest) with
  | error e => rfl
  | ok authority =>
    cases tail with
    | nil => simp [documentPath, String.append_assoc, toString]
    | cons q tail => simp [documentPath, String.append_assoc]

theorem didWebToUrl_ok_iff (did rest url : String) (hrest : Text.stripPrefix "did:web:" did = some rest) :
    didWebToUrl env did = .ok url ↔ ∃ authority, env.urlDecode (Text.beforeChar ':' rest) = .ok authority ∧
      url = "https://" ++ (authority ++ documentPath (Text.split ':' rest).tail) := by
  rw [didWebToUrl_of_rest env did rest hrest]
  cases env.urlDecode (Text.beforeChar ':' rest) with
  | error e => simp
  | ok authority => simp [eq_comm]

theorem urlParts_https (s : String) :
    urlParts ("https://" ++ s) =
      some (String.ofList (s.toList.takeWhile isAuthorityChar),
        String.ofList (s.toList.dropWhile isAuthorityChar)) := by
  rw [urlParts, (Text.stripPrefix_eq_some_iff "https://" _ s).mpr rfl]
  rfl

theorem documentPath_toList (tail : List String) : ∃ path, (documentPath tail).toList = '/' :: path := by
  rw [documentPath]
  split_ifs
  · exact ⟨_, rfl⟩
  · exact ⟨("/".intercalate tail ++ "/did.json").toList, by simp⟩

theorem urlParts_of_authority (authority path : String)
    (hauthority : ∀ c ∈ authority.toList, isAuthorityChar c = true)
    (hpath : ∃ rest, path.toList = '/' :: rest) :
    urlParts ("https://" ++ (authority ++ path)) = some (authority, path) := by
  obtain ⟨rest, hrest⟩ := hpath
  rw [urlParts_https, String.toList_append, List.takeWhile_append_of_pos hauthority,
    List.dropWhile_append_of_pos hauthority, hrest, List.takeWhile_cons, List.dropWhile_cons]
  simp [isAuthorityChar, ← hrest, String.ofList_toList]

end Url

theorem didIdChar_of_unescape (cs : List Char) (hcs : ∀ c ∈ cs, isDidIdChar c = true) (c : Char)
    (hc : c ∈ unescape '3' 'A' ':' cs) : isDidIdChar c = true := by
  rcases mem_unescape _ _ _ cs c hc with rfl | hc
  · decide
  · exact hcs c hc

theorem url_safe_of_isDidIdChar (c : Char) (h : isDidIdChar c = true) :
    isAuthorityChar c = true ∧ c ≠ '@' := by
  have hne : ∀ d, isDidIdChar d = false → c ≠ d := by
    rintro d hd rfl
    rw [h] at hd
    cases hd
  rw [isAuthorityChar, decide_eq_true_eq]
  exact ⟨⟨hne '/' (by decide), hne '?' (by decide), hne '#' (by decide)⟩, hne '@' (by decide)⟩

section Agreement

variable (env : WebEnv) (hdecode : DecodesPercent env.urlDecode)
include hdecode

theorem decoded_eq_iff (s t : String) (h : env.urlDecode s = .ok t) :
    t = String.ofList (unescape '3' 'A' ':' s.toList) ↔ OnlyEscape '3' 'A' s.toList := by
  rw [← percentDecode_eq_iff (r := ':') (by decide), ← (hdecode s t).mp h, ← utf8_ofList_eq,
    Acdp.Jcs.utf8_inj]

theorem didWebToUrl_of_decoded (did rest authority url : String)
    (hrest : Text.stripPrefix "did:web:" did = some rest)
    (hdecoded : utf8 authority = percentDecode (Text.beforeChar ':' rest).toList)
    (hurl : url = "https://" ++ (authority ++ documentPath (Text.split ':' rest).tail)) :
    didWebToUrl env did = .ok url :=
  (didWebToUrl_ok_iff env did rest url hrest).mpr ⟨authority, (hdecode _ _).mpr hdecoded, hurl⟩

theorem mapsAgree_iff (did parsed rest url : String) (hparse : AgentDid.parseWeb did = .ok parsed)
    (hrest : Text.stripPrefix "did:web:" did = some rest) (hurl : didWebToUrl env did = .ok url) :
    MapsAgree did url ↔ OnlyEscape '3' 'A' (Text.beforeChar ':' rest).toList := by
  obtain ⟨authority, hauthority, rfl⟩ := (didWebToUrl_ok_iff env did rest url hrest).mp hurl
  rw [← decoded_eq_iff env hdecode _ _ hauthority]
  have hcompare : didWebToAuthority did =
      some (String.ofList (unescape '3' 'A' ':' (Text.beforeChar ':' rest).toList)) := by
    rw [didWebToAuthority, hrest]
    rfl
  have hsegments : segments did = Text.split ':' rest := by
    rw [segments, hrest]
    rfl
  constructor
  · intro hagree
    have hfirst := hagree.authority
    have hpath := hagree.path
    rw [urlParts_https, hcompare] at hfirst
    rw [urlParts_https, hsegments] at hpath
    simp only [Option.map_some, Option.some.injEq] at hfirst hpath
    have hwhole := List.takeWhile_append_dropWhile (p := isAuthorityChar)
      (l := (authority ++ documentPath (Text.split ':' rest).tail).toList)
    rw [← String.ofList_inj, String.ofList_append, String.ofList_toList, hfirst, hpath] at hwhole
    exact (String.append_left_inj _).mp hwhole.symm
  · intro heq
    have hchars : ∀ c ∈ authority.toList, isDidIdChar c = true := by
      rw [heq, String.toList_ofList]
      refine didIdChar_of_unescape _ (fun c hc => ?_)
      exact isDidIdChar_of_parseWeb did parsed rest hparse hrest c (mem_of_mem_beforeChar ':' c rest hc).1
    have hparts := urlParts_of_authority authority _ (fun c hc => (url_safe_of_isDidIdChar c (hchars c hc)).1)
      (documentPath_toList (Text.split ':' rest).tail)
    constructor
    · rw [hparts, hcompare, ← heq]
      rfl
    · rintro p hp hin
      rw [hparts] at hp
      obtain rfl := Option.some.inj hp
      exact (url_safe_of_isDidIdChar '@' (hchars '@' hin)).2 rfl
    · rw [hparts, hsegments]
      rfl

end Agreement

section RoundTrip

variable (env : WebEnv) (hdecode : DecodesPercent env.urlDecode)

theorem authorityToDidWeb_toList (authority : String) :
    Text.stripPrefix "did:web:" (authorityToDidWeb authority) =
      some (String.ofList (escape '3' 'A' ':' authority.toList)) :=
  (Text.stripPrefix_eq_some_iff _ _ _).mpr rfl

theorem colon_notMem_escape (cs : List Char) : ':' ∉ escape '3' 'A' ':' cs := by
  intro hin
  obtain ⟨d, -, hd⟩ := List.mem_flatMap.mp hin
  split_ifs at hd with hcolon
  · revert hd
    decide
  · exact hcolon (List.mem_singleton.mp hd).symm

theorem beforeChar_escape (cs : List Char) :
    Text.beforeChar ':' (String.ofList (escape '3' 'A' ':' cs)) = String.ofList (escape '3' 'A' ':' cs) := by
  rw [Text.beforeChar, String.toList_ofList, List.takeWhile_eq_self_iff.mpr]
  intro c hc
  exact decide_eq_true (fun h => colon_notMem_escape cs (h ▸ hc))

theorem didWebToAuthority_of_authority (authority : String) (h : '%' ∉ authority.toList) :
    didWebToAuthority (authorityToDidWeb authority) = some authority := by
  rw [didWebToAuthority, authorityToDidWeb_toList, Option.map_some, beforeChar_escape, String.toList_ofList,
    unescape_escape _ _ _ _ h, String.ofList_toList]

include hdecode in
theorem didWebToUrl_of_authority (authority : String) (h : '%' ∉ authority.toList) :
    didWebToUrl env (authorityToDidWeb authority) =
      .ok ("https://" ++ authority ++ "/.well-known/did.json") := by
  have hbytes : utf8 authority = percentDecode (escape '3' 'A' ':' authority.toList) := by
    rw [(percentDecode_eq_iff (r := ':') (by decide) _).mpr (onlyEscape_of_escape (by decide) _ h),
      unescape_escape _ _ _ _ h, ← utf8_ofList_eq, String.ofList_toList]
  rw [didWebToUrl_ok_iff env _ _ _ (authorityToDidWeb_toList authority), beforeChar_escape]
  refine ⟨authority, (hdecode _ _).mpr (by rw [hbytes, String.toList_ofList]), ?_⟩
  rw [split_eq_singleton ':' _ (by rw [String.toList_ofList]; exact colon_notMem_escape _),
    String.append_assoc]
  rfl

theorem percent_notMem_of_isHostPort (authority : String) (h : IsHostPort authority) :
    '%' ∉ authority.toList := by
  obtain ⟨host, hhost, hform⟩ := h
  have hpercent : '%' ∉ host.toList := by
    intro hin
    have := hostChar_of_isValidDnsAuthority host hhost '%' hin
    revert this
    decide
  rcases hform with rfl | ⟨port, hport, rfl⟩
  · exact hpercent
  · rw [String.toList_append, String.toList_append, List.mem_append, List.mem_append, not_or, not_or]
    refine ⟨⟨hpercent, by decide⟩, fun hin => ?_⟩
    have := hport '%' hin
    revert this
    decide

end RoundTrip

/-- The mapping for fetching and the mapping for comparing agree on a DID exactly where its first segment
has no escape but `%3A`, and both undo `authorityToDidWeb` on every host, with or without a port. -/
theorem did_web_mappings_agree_iff (env : WebEnv) (hdecode : DecodesPercent env.urlDecode) :
    (∀ did parsed url, AgentDid.parseWeb did = .ok parsed → didWebToUrl env did = .ok url →
      (MapsAgree did url ↔ OnlyEscape '3' 'A' (firstSegment did).toList)) ∧
    ∀ authority, IsHostPort authority →
      didWebToAuthority (authorityToDidWeb authority) = some authority ∧
        didWebToUrl env (authorityToDidWeb authority) =
          .ok ("https://" ++ authority ++ "/.well-known/did.json") := by
  constructor
  · intro did parsed url hparse hurl
    cases hrest : Text.stripPrefix "did:web:" did with
    | none =>
      rw [didWebToUrl, hrest] at hurl
      cases hurl
    | some rest =>
      obtain ⟨tail, htail⟩ := split_eq_cons ':' rest
      have hfirst : firstSegment did = Text.beforeChar ':' rest := by
        rw [firstSegment, segments, hrest, Option.map_some, Option.getD_some, htail, List.headD_cons]
      rw [hfirst]
      exact mapsAgree_iff env hdecode did parsed rest url hparse hrest hurl
  · intro authority h
    have hpercent := percent_notMem_of_isHostPort authority h
    exact ⟨didWebToAuthority_of_authority authority hpercent,
      didWebToUrl_of_authority env hdecode authority hpercent⟩

section Standard

def standardDecode (s : String) : Except String String :=
  match String.fromUTF8? ⟨(percentDecode s.toList).toArray⟩ with
  | some t => .ok t
  | none => .error "invalid utf-8 sequence"

theorem fromUTF8?_eq_some_iff (bytes : ByteArray) (t : String) :
    String.fromUTF8? bytes = some t ↔ t.toByteArray = bytes := by
  unfold String.fromUTF8?
  constructor
  · intro h
    split_ifs at h
    rw [← Option.some.inj h]
    rfl
  · rintro rfl
    rw [dif_pos t.isValidUTF8]
    rfl

theorem standardDecode_decodes : DecodesPercent standardDecode := by
  intro s t
  have hbytes : utf8 t = percentDecode s.toList ↔ t.toByteArray = ⟨(percentDecode s.toList).toArray⟩ := by
    rw [utf8, ByteArray.ext_iff, ← Array.toList_inj]
  rw [hbytes, ← fromUTF8?_eq_some_iff, standardDecode]
  cases String.fromUTF8? ⟨(percentDecode s.toList).toArray⟩ with
  | some t' => simp
  | none => simp

def standardEnv : WebEnv := ⟨standardDecode, fun _ => .ok (), fun _ => .error "no document"⟩

theorem did_web_mappings_agree_nested :
    MapsAgree "did:web:localhost%3A8443:users:alice" "https://localhost:8443/users/alice/did.json" ∧
      didWebToAuthority (authorityToDidWeb "localhost:8443") = some "localhost:8443" := by
  have hurl := didWebToUrl_of_decoded standardEnv standardDecode_decodes
    "did:web:localhost%3A8443:users:alice" "localhost%3A8443:users:alice" "localhost:8443"
    "https://localhost:8443/users/alice/did.json"
    (by decide +kernel) (by decide +kernel) (by decide +kernel)
  have hnested := did_web_mappings_agree_iff standardEnv standardDecode_decodes
  have hparse : AgentDid.parseWeb "did:web:localhost%3A8443:users:alice" =
      .ok "did:web:localhost%3A8443:users:alice" := by decide +kernel
  refine ⟨(hnested.1 _ _ _ hparse hurl).mpr ?_, (hnested.2 "localhost:8443" ?_).1⟩
  · exact (percentDecode_eq_iff (r := ':') (by decide) _).mp (by decide +kernel)
  · exact ⟨"localhost",
      by decide +kernel, .inr ⟨"8443", List.all_eq_true.mp (by decide +kernel), by decide +kernel⟩⟩

theorem escaped_authority_diverges :
    DecodesPercent standardEnv.urlDecode ∧
      (AgentDid.parseWeb "did:web:localhost%3a8443" = .ok "did:web:localhost%3a8443" ∧
        didWebToUrl standardEnv "did:web:localhost%3a8443" =
          .ok "https://localhost:8443/.well-known/did.json" ∧
        didWebToAuthority "did:web:localhost%3a8443" = some "localhost%3a8443" ∧
        ¬ MapsAgree "did:web:localhost%3a8443" "https://localhost:8443/.well-known/did.json") ∧
      AgentDid.parseWeb "did:web:registry.example%40evil.example" =
        .ok "did:web:registry.example%40evil.example" ∧
      didWebToUrl standardEnv "did:web:registry.example%40evil.example" =
        .ok "https://registry.example@evil.example/.well-known/did.json" ∧
      ¬ MapsAgree "did:web:registry.example%40evil.example"
        "https://registry.example@evil.example/.well-known/did.json" := by
  refine ⟨standardDecode_decodes, ⟨by decide +kernel, ?_, by decide +kernel, ?_⟩, by decide +kernel, ?_, ?_⟩
  · exact didWebToUrl_of_decoded standardEnv standardDecode_decodes _ "localhost%3a8443" "localhost:8443" _
      (by decide +kernel) (by decide +kernel) (by decide +kernel)
  · intro h
    exact absurd h.authority (by decide +kernel)
  · exact didWebToUrl_of_decoded standardEnv standardDecode_decodes _ "registry.example%40evil.example"
      "registry.example@evil.example" _ (by decide +kernel) (by decide +kernel) (by decide +kernel)
  · intro h
    exact absurd h.authority (by decide +kernel)

end Standard

end Acdp.Did
