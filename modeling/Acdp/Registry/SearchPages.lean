import Acdp.Registry.SearchCursor
import Acdp.Registry.LineageHead
import Acdp.Foundation.Keyset
import Mathlib.Data.List.Nodup
import Mathlib.Data.String.Basic

namespace Acdp.Registry.Search

open Acdp.Types
open Acdp.Crypto.Merkle (Digest)
open Acdp.Registry.Store
open Acdp.Foundation.Keyset

def newer (a b : FullContext) : Bool :=
  b.body.createdAt < a.body.createdAt ||
    (a.body.createdAt == b.body.createdAt && decide (a.body.ctxId < b.body.ctxId))

theorem newer_iff (a b : FullContext) : newer a b = true ↔
    b.body.createdAt < a.body.createdAt ∨
      (a.body.createdAt = b.body.createdAt ∧ a.body.ctxId < b.body.ctxId) := by
  simp [newer]

theorem newer_irrefl (a : FullContext) : newer a a = false := by
  simp [newer]

theorem newer_asymm (a b : FullContext) (h : newer a b = true) : newer b a = false := by
  rw [newer_iff] at h
  rw [Bool.eq_false_iff, Ne, newer_iff]
  rintro (hlt | ⟨heq, hlt⟩)
  · rcases h with hlt' | ⟨heq', -⟩
    · exact lt_asymm hlt hlt'
    · exact absurd heq' hlt.ne
  · rcases h with hlt' | ⟨-, hlt'⟩
    · exact absurd heq hlt'.ne
    · exact lt_asymm hlt hlt'

theorem searchOrder_iff (a b : FullContext) : searchOrder a b = true ↔
    b.body.createdAt < a.body.createdAt ∨
      (a.body.createdAt = b.body.createdAt ∧ a.body.ctxId ≤ b.body.ctxId) := by
  simp [searchOrder]

theorem searchOrder_trans (a b c : FullContext) (hab : searchOrder a b = true)
    (hbc : searchOrder b c = true) : searchOrder a c = true := by
  rw [searchOrder_iff] at hab hbc ⊢
  rcases hab with hab | ⟨heq, hab⟩
  · rcases hbc with hbc | ⟨heq', -⟩
    · exact .inl (hbc.trans hab)
    · exact .inl (heq' ▸ hab)
  · rcases hbc with hbc | ⟨heq', hbc⟩
    · exact .inl (heq ▸ hbc)
    · exact .inr ⟨heq.trans heq', hab.trans hbc⟩

theorem searchOrder_total (a b : FullContext) : (searchOrder a b || searchOrder b a) = true := by
  rw [Bool.or_eq_true, searchOrder_iff, searchOrder_iff]
  rcases lt_trichotomy a.body.createdAt b.body.createdAt with h | h | h
  · exact .inr (.inl h)
  · rcases le_total a.body.ctxId b.body.ctxId with hid | hid
    · exact .inl (.inr ⟨h, hid⟩)
    · exact .inr (.inr ⟨h.symm, hid⟩)
  · exact .inl (.inl h)

theorem mem_values_iff (t : ContextTable) (ctx : FullContext) :
    ctx ∈ t.values ↔ ∃ id, t.get? id = some ctx := by
  rw [ContextTable.values, List.mem_map]
  constructor
  · rintro ⟨⟨id, c⟩, hmem, rfl⟩
    exact ⟨id, Std.ExtTreeMap.mem_toList_iff_getElem?_eq_some.mp hmem⟩
  · rintro ⟨id, h⟩
    exact ⟨(id, ctx), Std.ExtTreeMap.mem_toList_iff_getElem?_eq_some.mpr h, rfl⟩

theorem values_pairwise (t : ContextTable) :
    t.values.Pairwise (fun a b => a.body.ctxId ≠ b.body.ctxId) := by
  rw [ContextTable.values, List.pairwise_map]
  refine List.Pairwise.imp_of_mem ?_ (Std.ExtTreeMap.distinct_keys_toList (t := t.entries))
  rintro ⟨ida, a⟩ ⟨idb, b⟩ ha hb hne heq
  have hka := t.keyed ida a (Std.ExtTreeMap.mem_toList_iff_getElem?_eq_some.mp ha)
  have hkb := t.keyed idb b (Std.ExtTreeMap.mem_toList_iff_getElem?_eq_some.mp hb)
  refine hne (Std.LawfulEqCmp.compare_eq_iff_eq.mpr ?_)
  rw [← hka, ← hkb]
  exact heq

theorem sortedMatches_ok (env : SearchEnv) (s : Inner) (params : SearchParams)
    (requester : Option AgentDid) (anonymousPublicReads : Bool) (now : DateTime)
    (full : List FullContext)
    (h : sortedMatches env s params requester anonymousPublicReads now = .ok full) :
    ∃ dates, parseDateFilters env params = .ok dates ∧ full.Pairwise (fun a b => newer a b = true) ∧
      ∀ ctx, ctx ∈ full ↔ (∃ id, s.byCtx.get? id = some ctx) ∧
        matchesParams env params dates requester anonymousPublicReads now ctx = true := by
  rw [sortedMatches] at h
  cases hdates : parseDateFilters env params with
  | error e =>
    rw [hdates] at h
    cases h
  | ok dates =>
    rw [hdates] at h
    obtain rfl := Except.ok.inj h
    refine ⟨dates, rfl, ?_, ?_⟩
    · have hle := List.pairwise_mergeSort searchOrder_trans searchOrder_total
        (s.byCtx.values.filter (matchesParams env params dates requester anonymousPublicReads now))
      have hne := ((values_pairwise s.byCtx).filter
        (matchesParams env params dates requester anonymousPublicReads now)).perm
          (List.mergeSort_perm _ searchOrder).symm (fun hab => hab.symm)
      refine (hle.and hne).imp ?_
      rintro a b ⟨hab, hid⟩
      rw [searchOrder_iff] at hab
      rw [newer_iff]
      rcases hab with hab | ⟨heq, hab⟩
      · exact .inl hab
      · exact .inr ⟨heq, lt_of_le_of_ne hab hid⟩
    · intro ctx
      rw [List.mem_mergeSort, List.mem_filter, mem_values_iff]

theorem timestampMillis_of_truncMs (t : DateTime) (h : t.truncMs = t) :
    t.nanos = t.timestampMillis * 1000000 := by
  have hn := DateTime.truncMs_nanos t
  rw [h] at hn
  exact hn

theorem afterAnchor_eq_newer (a c : FullContext) (ha : a.body.createdAt.truncMs = a.body.createdAt)
    (hc : c.body.createdAt.truncMs = c.body.createdAt) :
    afterAnchor (a.body.createdAt.timestampMillis, a.body.ctxId) c = newer a c := by
  have hna := timestampMillis_of_truncMs _ ha
  have hnc := timestampMillis_of_truncMs _ hc
  rw [Bool.eq_iff_iff, newer_iff, DateTime.lt_iff, DateTime.ext_iff]
  simp only [afterAnchor, Bool.or_eq_true, decide_eq_true_eq, Bool.and_eq_true, beq_iff_eq]
  constructor
  · rintro (hlt | ⟨heq, hlt⟩)
    · exact .inl (by omega)
    · exact .inr ⟨by omega, hlt⟩
  · rintro (hlt | ⟨heq, hlt⟩)
    · exact .inl (by omega)
    · exact .inr ⟨by omega, hlt⟩

theorem pageLimit_pos (limit : Option UInt32) : 0 < pageLimit limit :=
  lt_of_lt_of_le Nat.one_pos (le_max_left 1 _)

theorem search_of_anchor (env : SearchEnv) (s : Inner) (params : SearchParams)
    (requester : Option AgentDid) (anonymousPublicReads : Bool) (now : DateTime)
    (full : List FullContext) (anchor : Option (ℤ × String))
    (h : sortedMatches env s params requester anonymousPublicReads now = .ok full)
    (hanchor : cursorAnchor env params now = .ok anchor) :
    search env s params requester anonymousPublicReads now =
      .ok (searchPage env (pageLimit params.limit) now full.length (retainAfter anchor full)) := by
  rw [search, h]
  simp only [bind, Except.bind, hanchor]
  rfl

def CursorAt (env : SearchEnv) (now : DateTime) (full : List FullContext) (cursor : Option String)
    (rest : List FullContext) : Prop :=
  ∃ delivered, full = delivered ++ rest ∧
    ((cursor = none ∧ delivered = []) ∨
      ∃ a, delivered.getLast? = some a ∧
        cursor = some (encodeCursor env a.body.createdAt.timestampMillis a.body.ctxId now))

theorem getLast?_append_take (delivered rest : List FullContext) (limit : ℕ) (hpos : 0 < limit)
    (hlen : limit < rest.length) :
    (delivered ++ rest.take limit).getLast? = rest[limit - 1]? := by
  have hne : rest.take limit ≠ [] := by
    rw [Ne, List.take_eq_nil_iff]
    rintro (rfl | rfl)
    · exact absurd hpos (Nat.lt_irrefl 0)
    · simp at hlen
  rw [List.getLast?_append_of_ne_nil _ hne, List.getLast?_eq_getElem?, List.length_take,
    Nat.min_eq_left hlen.le, List.getElem?_take_of_lt (by omega)]

theorem search_page (env : SearchEnv)
    (hbase64 : ∀ bytes, env.base64Decode (env.base64Encode bytes) = some bytes) (s : Inner)
    (hms : ∀ id ctx, s.byCtx.get? id = some ctx → ctx.body.createdAt.truncMs = ctx.body.createdAt)
    (params : SearchParams) (requester : Option AgentDid) (anonymousPublicReads : Bool)
    (now : DateTime) (full : List FullContext)
    (hfull : sortedMatches env s params requester anonymousPublicReads now = .ok full)
    (cursor : Option String) (rest : List FullContext) (hat : CursorAt env now full cursor rest) :
    search env s { params with cursor := cursor } requester anonymousPublicReads now =
      .ok (searchPage env (pageLimit params.limit) now full.length rest) := by
  obtain ⟨dates, -, hsorted, hmem⟩ :=
    sortedMatches_ok env s params requester anonymousPublicReads now full hfull
  have hprecise : ∀ ctx ∈ full, ctx.body.createdAt.truncMs = ctx.body.createdAt := by
    intro ctx hctx
    obtain ⟨⟨id, hget⟩, -⟩ := (hmem ctx).mp hctx
    exact hms id ctx hget
  obtain ⟨delivered, rfl, ⟨rfl, rfl⟩ | ⟨a, hlast, rfl⟩⟩ := hat
  · exact search_of_anchor env s { params with cursor := none } requester anonymousPublicReads now _ none
      hfull rfl
  · have ha : a ∈ delivered ++ rest := List.mem_append_left _ (List.mem_of_getLast? hlast)
    have hfilter : (delivered ++ rest).filter
        (afterAnchor (a.body.createdAt.timestampMillis, a.body.ctxId)) = rest := by
      refine Eq.trans ?_ (filter_after_last newer newer_irrefl newer_asymm delivered rest a hsorted hlast)
      exact List.filter_congr (fun c hc => afterAnchor_eq_newer a c (hprecise a ha) (hprecise c hc))
    have hpage := search_of_anchor env s
      { params with
        cursor := some (encodeCursor env a.body.createdAt.timestampMillis a.body.ctxId now) }
      requester anonymousPublicReads now _ _ hfull
      (decodeCursor_encodeCursor env hbase64 a.body.createdAt now a.body.ctxId)
    rw [retainAfter, hfilter] at hpage
    exact hpage

theorem searchPage_advances (env : SearchEnv) (now : DateTime) (limit : ℕ) (hlimit : 0 < limit)
    (full rest : List FullContext) (cursor : Option String) (hat : CursorAt env now full cursor rest) :
    (rest.length ≤ limit ∧ (searchPage env limit now full.length rest).nextCursor = none) ∨
    (limit < rest.length ∧ ∃ c, (searchPage env limit now full.length rest).nextCursor = some c ∧
      CursorAt env now full (some c) (rest.drop limit)) := by
  rcases Nat.lt_or_ge limit rest.length with hlt | hge
  · obtain ⟨a, ha⟩ : ∃ a, rest[limit - 1]? = some a := ⟨_, List.getElem?_eq_getElem (by omega)⟩
    obtain ⟨delivered, hsplit, -⟩ := hat
    refine .inr ⟨hlt, encodeCursor env a.body.createdAt.timestampMillis a.body.ctxId now,
      by simp [searchPage, hlt, ha], delivered ++ rest.take limit,
      by rw [List.append_assoc, List.take_append_drop, hsplit], .inr ⟨a, ?_, rfl⟩⟩
    rw [getLast?_append_take delivered rest limit hlimit hlt, ha]
  · exact .inl ⟨hge, by simp [searchPage, Nat.not_lt.mpr hge]⟩

/-- Following `next_cursor` delivers the whole ordered result list, page by page. -/
theorem search_pages_complete (env : SearchEnv)
    (hbase64 : ∀ bytes, env.base64Decode (env.base64Encode bytes) = some bytes) (s : Inner)
    (hms : ∀ id ctx, s.byCtx.get? id = some ctx → ctx.body.createdAt.truncMs = ctx.body.createdAt)
    (params : SearchParams) (hcursor : params.cursor = none) (requester : Option AgentDid)
    (anonymousPublicReads : Bool) (now : DateTime) :
    (∃ e, parseDateFilters env params = .error e ∧
      search env s params requester anonymousPublicReads now = .error e) ∨
    ∃ (dates : DateFilters) (full : List FullContext) (pages : List SearchResponse),
      parseDateFilters env params = .ok dates ∧
      (∀ ctx, ctx ∈ full ↔ (∃ id, s.byCtx.get? id = some ctx) ∧
        matchesParams env params dates requester anonymousPublicReads now ctx = true) ∧
      full.Pairwise (fun a b => newer a b = true) ∧ full.Nodup ∧
      follow (fun cursor => search env s { params with cursor := cursor } requester
        anonymousPublicReads now) (·.nextCursor) (full.length + 1) params.cursor = some (.ok pages) ∧
      pages.flatMap (·.matches) = full.map (searchResult now) ∧
      (∀ page ∈ pages.dropLast, page.matches.length = pageLimit params.limit) ∧
      ∀ page ∈ pages, page.totalEstimate = some full.length := by
  cases hfull : sortedMatches env s params requester anonymousPublicReads now with
  | error e =>
    refine .inl ⟨e, ?_, by rw [search, hfull]; rfl⟩
    rw [sortedMatches] at hfull
    cases hdates : parseDateFilters env params with
    | error e' =>
      rw [hdates] at hfull
      cases hfull
      rfl
    | ok dates =>
      rw [hdates] at hfull
      cases hfull
  | ok full =>
    obtain ⟨dates, hdates, hsorted, hmem⟩ :=
      sortedMatches_ok env s params requester anonymousPublicReads now full hfull
    have hnodup : full.Nodup := by
      refine hsorted.imp ?_
      rintro a b hab rfl
      rw [newer_irrefl] at hab
      cases hab
    have hfetch : ∀ cursor results, (∃ rest, results = rest.map (searchResult now) ∧
        CursorAt env now full cursor rest) → ∃ page,
          search env s { params with cursor := cursor } requester anonymousPublicReads now = .ok page ∧
          page.totalEstimate = some full.length ∧
          page.matches = results.take (pageLimit params.limit) ∧
          ((results.length ≤ pageLimit params.limit ∧ page.nextCursor = none) ∨
            (pageLimit params.limit < results.length ∧ ∃ c, page.nextCursor = some c ∧
              ∃ rest, results.drop (pageLimit params.limit) = rest.map (searchResult now) ∧
                CursorAt env now full (some c) rest)) := by
      rintro cursor results ⟨rest, rfl, hat⟩
      refine ⟨_, search_page env hbase64 s hms params requester anonymousPublicReads now full hfull
        cursor rest hat, rfl, List.map_take, ?_⟩
      rw [List.length_map, ← List.map_drop]
      obtain hlast | ⟨hlt, c, hnext, hat'⟩ :=
        searchPage_advances env now _ (pageLimit_pos params.limit) full rest cursor hat
      · exact .inl hlast
      · exact .inr ⟨hlt, c, hnext, _, rfl, hat'⟩
    obtain ⟨pages, hfollow, hflat, hgood, hsize⟩ := follow_complete _ _ _ _ _
      (pageLimit_pos params.limit) _ hfetch (full.length + 1) params.cursor
      (full.map (searchResult now)) ⟨full, rfl, [], rfl, .inl ⟨hcursor, rfl⟩⟩ (by simp)
    exact .inr ⟨dates, full, pages, hdates, hmem, hsorted, hnodup, hfollow, hflat, hsize, hgood⟩

theorem truncMs_truncMs (t : DateTime) : t.truncMs.truncMs = t.truncMs := by
  apply DateTime.ext
  rw [DateTime.truncMs_nanos, DateTime.truncMs_nanos]
  omega

theorem runCalls_createdAt_truncMs (sha256 : List UInt8 → Digest) (calls : List StoreCall) (id : CtxId)
    (ctx : FullContext) (h : (runCalls sha256 calls Inner.new).byCtx.get? id = some ctx) :
    ctx.body.createdAt.truncMs = ctx.body.createdAt := by
  refine Foundation.Transition.runState_invariant (StoreCall.apply sha256) (fun _ => True)
    (fun s => ∀ id ctx, s.byCtx.get? id = some ctx →
      ctx.body.createdAt.truncMs = ctx.body.createdAt) ?_ calls Inner.new (fun _ _ => trivial) ?_ id ctx h
  · intro call s _ hs id ctx hget
    obtain ⟨old, hold, hbody⟩ | ⟨req, c, l, authority, now, hbody⟩ :=
      apply_body_cases sha256 call s id ctx hget
    · rw [hbody]
      exact hs id old hold
    · rw [hbody]
      exact truncMs_truncMs now
  · intro id ctx hget
    rw [Inner.new, ContextTable.get?_empty] at hget
    cases hget

def samplePageText : ByteArray :=
  ("1790000001000:1790000000000:" ++ sampleCtx1).toByteArray

def samplePageCursor : String :=
  "MTc5MDAwMDAwMTAwMDoxNzkwMDAwMDAwMDAwOmFjZHA6Ly9yZWdpc3RyeS5leGFtcGxlLmNvbS8x" ++
  "MTExMTExMS0xMTExLTQxMTEtODExMS0xMTExMTExMTExMTE="

def byteChar (b : UInt8) : Char := Char.ofNat b.toNat

def samplePageEnv : SearchEnv where
  toLowercase := id
  parseFromRfc3339 _ := .error "input contains invalid characters"
  base64Encode bytes := if bytes.data = samplePageText.data then samplePageCursor
    else String.ofList ('!' :: bytes.data.toList.map byteChar)
  base64Decode cursor := if cursor = samplePageCursor then some samplePageText
    else some ⟨(cursor.toList.tail.map (fun c => UInt8.ofNat c.toNat)).toArray⟩

theorem byteChar_toNat (b : UInt8) : UInt8.ofNat (byteChar b).toNat = b := by
  have hlt : b.toNat < 256 := b.toNat_lt
  have hvalid : b.toNat.isValidChar := .inl (by omega)
  have hnat : (byteChar b).toNat = b.toNat := by
    rw [byteChar, Char.ofNat, dif_pos hvalid]
    rfl
  rw [hnat]
  exact UInt8.ofNat_toNat

theorem samplePageEnv_base64 (bytes : ByteArray) :
    samplePageEnv.base64Decode (samplePageEnv.base64Encode bytes) = some bytes := by
  by_cases hb : bytes = samplePageText
  · simp [samplePageEnv, hb]
  · have hne : String.ofList ('!' :: bytes.data.toList.map byteChar) ≠ samplePageCursor := by
      intro he
      have hhead : some '!' = samplePageCursor.toList.head? := by
        rw [← he, String.toList_ofList, List.head?_cons]
      exact absurd hhead (by decide +kernel)
    have hbytes : (bytes.data.toList.map byteChar).map (fun c => UInt8.ofNat c.toNat) =
        bytes.data.toList := by
      rw [List.map_map]
      exact List.map_congr_left (fun b _ => byteChar_toNat b) |>.trans (List.map_id _)
    have hdata : bytes.data ≠ samplePageText.data := fun h => hb (ByteArray.ext h)
    simp only [samplePageEnv, if_neg hdata, if_neg hne, String.toList_ofList, List.tail_cons, hbytes]

def sampleSearchParams : SearchParams where
  q := none
  contextType := none
  domain := none
  tags := none
  agentId := none
  schemaUri := none
  derivedFrom := none
  createdAfter := none
  createdBefore := none
  dataPeriodStartAfter := none
  dataPeriodEndBefore := none
  expiresAfter := none
  expiresBefore := none
  status := none
  limit := some 1
  cursor := none

def samplePageCalls : List StoreCall :=
  [.commitPublish (sampleCommit (sampleRequest 1 none "sha256:01") none) (sampleInstant 0) sampleUuid1,
    .commitPublish (sampleCommit (sampleRequest 1 none "sha256:02") none) (sampleInstant 0) sampleUuid2]

theorem search_pages_complete_sample :
    ∃ (full : List FullContext) (pages : List SearchResponse),
      full.Pairwise (fun a b => newer a b = true) ∧
      follow (fun cursor => search samplePageEnv (runCalls sampleSha256 samplePageCalls Inner.new)
        { sampleSearchParams with cursor := cursor } none true (sampleInstant 1)) (·.nextCursor)
        (full.length + 1) none = some (.ok pages) ∧
      pages.flatMap (·.matches) = full.map (searchResult (sampleInstant 1)) := by
  obtain ⟨e, herr, -⟩ | ⟨dates, full, pages, -, -, hsorted, -, hfollow, hflat, -⟩ :=
    search_pages_complete samplePageEnv samplePageEnv_base64
      (runCalls sampleSha256 samplePageCalls Inner.new)
      (runCalls_createdAt_truncMs sampleSha256 samplePageCalls) sampleSearchParams rfl none true
      (sampleInstant 1)
  · cases herr
  · exact ⟨full, pages, hsorted, hfollow, hflat⟩

end Acdp.Registry.Search
