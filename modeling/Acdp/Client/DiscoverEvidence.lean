import Acdp.Client.Discover
import Acdp.Foundation.Entries
import Acdp.Foundation.Firsts
import Acdp.Foundation.Transition

namespace Acdp.Client

open Acdp.Types
open Acdp.Registry.Search (SearchParams SearchResult SearchResponse)
open Acdp.Foundation.Entries (bind_ok)
open Acdp.Foundation.Firsts
open Acdp.Foundation.Transition (foldlM_ok_invariant)

section Served

def Exchange.claims : Exchange → List (CtxId × Candidate)
  | .searched _ _ => []
  | .retrieved requested candidate => [(requested, candidate)]
  | .walked _ members =>
    (members.filter (·.keyless.isSome) ++ members.filter (·.accepted.isSome)).map
      (fun c => (c.ctx.body.ctxId, c))

def Exchange.served : Exchange → List Candidate
  | .searched _ _ => []
  | .retrieved _ candidate => [candidate]
  | .walked _ members => members

def Exchange.page : Exchange → Option (SearchParams × SearchResponse)
  | .searched params response => some (params, response)
  | _ => none

def claims (trace : List Exchange) : List (CtxId × Candidate) := trace.flatMap Exchange.claims

def served (trace : List Exchange) : List Candidate := trace.flatMap Exchange.served

def pages (trace : List Exchange) : List (SearchParams × SearchResponse) := trace.filterMap Exchange.page

def namedBy (trace : List Exchange) : List SearchResult := (pages trace).flatMap (fun page => page.2.matches)

def passPages (pass : String × String) (trace : List Exchange) : List (SearchParams × SearchResponse) :=
  (pages trace).filter (fun page => page.1.contextType = some pass.1 ∧ page.1.status = some pass.2)

def ReadToEnd : Option String → List (SearchParams × SearchResponse) → Prop
  | _, [] => False
  | cursor, page :: rest =>
    page.1.cursor = cursor ∧
      match page.2.nextCursor with
      | none => rest = []
      | some next => ReadToEnd (some next) rest

/-- What the caller relies on when discovery returns. -/
structure EvidenceKept {σ : Type} (keep : KeyRevocation → Bool) (s : Discovery σ) : Prop where
  revocations : ∀ c ∈ served s.trace, isKeylessKeyId c.ctx.body.signature.keyId = false →
    ∀ revocation, c.outcome = some (.ok revocation) → keep revocation = true → revocation ∈ s.revocations
  deferred : ∀ c ∈ served s.trace, isKeylessKeyId c.ctx.body.signature.keyId = true →
    ∃ ctx ∈ s.deferred, ctx.body = c.ctx.body
  noneFatal : ∀ c ∈ served s.trace, ∀ e, c.outcome = some (.error e) → isDiscoveryFatal e = false
  passesRead : ∀ pass ∈ passes, ReadToEnd none (passPages pass s.trace)
  lineagesWalked : ∀ m ∈ namedBy s.trace, ∃ members first, .walked m.lineageId members ∈ s.trace ∧
    (namedBy s.trace).find? (fun other => other.lineageId = m.lineageId) = some first ∧
    ∃ c ∈ members, c.ctx.body.ctxId = first.ctxId

/-- The first candidate that is served under each id carries all the evidence that is served. -/
structure NothingHidden (keep : KeyRevocation → Bool) (trace : List Exchange) : Prop where
  revocations : ∀ p ∈ claims trace, ∀ revocation, p.2.accepted = some revocation → keep revocation = true →
    ∃ q ∈ firstsBy Prod.fst (claims trace), q.2.accepted = some revocation
  deferred : ∀ p ∈ claims trace, ∀ ctx, p.2.keyless = some ctx →
    ∃ q ∈ firstsBy Prod.fst (claims trace), ∃ ctx', q.2.keyless = some ctx' ∧ ctx'.body = ctx.body

@[simp] theorem claims_append (a b : List Exchange) : claims (a ++ b) = claims a ++ claims b :=
  List.flatMap_append

@[simp] theorem served_append (a b : List Exchange) : served (a ++ b) = served a ++ served b :=
  List.flatMap_append

@[simp] theorem pages_append (a b : List Exchange) : pages (a ++ b) = pages a ++ pages b :=
  List.filterMap_append

@[simp] theorem claims_singleton (x : Exchange) : claims [x] = x.claims := List.append_nil _

@[simp] theorem served_singleton (x : Exchange) : served [x] = x.served := List.append_nil _

end Served

section Collected

variable {σ : Type} (keep : KeyRevocation → Bool)

def Candidate.kept (c : Candidate) : Option KeyRevocation := c.accepted.filter keep

structure Collected (cs : List (CtxId × Candidate)) (s : Discovery σ) : Prop where
  seen : ∀ id, id ∈ s.seen ↔ id ∈ cs.map Prod.fst
  revocations : s.revocations = (firstsBy Prod.fst cs).filterMap (fun p => p.2.kept keep)
  deferred : s.deferred = (firstsBy Prod.fst cs).filterMap (fun p => p.2.keyless)

variable {keep}

theorem Collected.old {cs : List (CtxId × Candidate)} {s : Discovery σ} (h : Collected keep cs s)
    (id : CtxId) (c : Candidate) (hid : id ∈ s.seen) : Collected keep (cs ++ [(id, c)]) s := by
  have hmem : id ∈ cs.map Prod.fst := (h.seen id).mp hid
  have hfirsts : firstsBy Prod.fst (cs ++ [(id, c)]) = firstsBy Prod.fst cs := firstsBy_concat_old _ _ _ hmem
  refine ⟨fun other => ?_, by rw [hfirsts]; exact h.revocations, by rw [hfirsts]; exact h.deferred⟩
  rw [h.seen, List.map_append, List.mem_append, List.map_singleton, List.mem_singleton]
  constructor
  · exact Or.inl
  · rintro (hother | rfl)
    · exact hother
    · exact hmem

theorem Collected.new {cs : List (CtxId × Candidate)} {s s' : Discovery σ} (h : Collected keep cs s)
    (id : CtxId) (c : Candidate) (hid : id ∉ s.seen) (hseen : s'.seen = s.seen ++ [id])
    (hrevocations : s'.revocations = s.revocations ++ (c.kept keep).toList)
    (hdeferred : s'.deferred = s.deferred ++ c.keyless.toList) : Collected keep (cs ++ [(id, c)]) s' := by
  have hnew : id ∉ cs.map Prod.fst := fun hmem => hid ((h.seen id).mpr hmem)
  have hfirsts : firstsBy Prod.fst (cs ++ [(id, c)]) = firstsBy Prod.fst cs ++ [(id, c)] :=
    firstsBy_concat_new _ _ _ hnew
  refine ⟨fun other => ?_, ?_, ?_⟩
  · rw [hseen, List.mem_append, h.seen, List.map_append, List.mem_append]
    rfl
  · rw [hrevocations, hfirsts, List.filterMap_append, h.revocations]
    cases hc : c.kept keep with
    | none => simp [hc]
    | some revocation => simp [hc]
  · rw [hdeferred, hfirsts, List.filterMap_append, h.deferred]
    cases hc : c.keyless with
    | none => simp [hc]
    | some ctx => simp [hc]

end Collected

section Steps

variable {σ : Type} (net : Network σ) (params : DiscoveryParams) (keep : KeyRevocation → Bool)

/-- A candidate is set aside exactly when its key is keyless, and has not failed in a way that ends the
run. -/
structure Candidate.Checked (c : Candidate) : Prop where
  keyless : c.outcome = none ↔ isKeylessKeyId c.ctx.body.signature.keyId = true
  nonFatal : ∀ e, c.outcome = some (.error e) → isDiscoveryFatal e = false

theorem checkCandidate_ok (ctx : FullContext) (world world' : σ) (c : Candidate)
    (h : checkCandidate net ctx world = .ok (c, world')) : c.ctx = ctx ∧ c.Checked := by
  rw [checkCandidate] at h
  split at h
  next hkeyless =>
    obtain ⟨rfl, rfl⟩ := Prod.mk.inj (Except.ok.inj h)
    exact ⟨rfl, ⟨by simp [hkeyless], by simp⟩⟩
  next hkeyless =>
    split at h
    next revocation world'' _ =>
      obtain ⟨rfl, rfl⟩ := Prod.mk.inj (Except.ok.inj h)
      exact ⟨rfl, ⟨by simp [hkeyless], by simp⟩⟩
    next e world'' _ =>
      split at h
      · cases h
      next hfatal =>
        obtain ⟨rfl, rfl⟩ := Prod.mk.inj (Except.ok.inj h)
        refine ⟨rfl, ⟨by simp [hkeyless], fun e' he => ?_⟩⟩
        obtain rfl := Except.error.inj (Option.some.inj he)
        exact Bool.eq_false_iff.mpr hfatal

theorem checkMembers_ok (members : List FullContext) (world world' : σ) (cs : List Candidate)
    (h : checkMembers net members world = .ok (cs, world')) :
    cs.map (·.ctx) = members ∧ ∀ c ∈ cs, c.Checked := by
  induction members generalizing world cs with
  | nil =>
    obtain ⟨rfl, -⟩ := Prod.mk.inj (Except.ok.inj h)
    exact ⟨rfl, by simp⟩
  | cons ctx rest ih =>
    rw [checkMembers] at h
    obtain ⟨⟨c, middle⟩, hc, h⟩ := bind_ok _ _ _ h
    obtain ⟨⟨cs', last⟩, hcs, h⟩ := bind_ok _ _ _ h
    obtain ⟨rfl, rfl⟩ := Prod.mk.inj (Except.ok.inj h)
    obtain ⟨hctx, hchecked⟩ := checkCandidate_ok net ctx world middle c hc
    obtain ⟨hrest, hall⟩ := ih middle cs' hcs
    exact ⟨by rw [List.map_cons, hctx, hrest], List.forall_mem_cons.mpr ⟨hchecked, hall⟩⟩

theorem collect_eq (c : Candidate) (s : Discovery σ) :
    collect keep c s = { s with
      revocations := s.revocations ++ (c.kept keep).toList
      deferred := s.deferred ++ c.keyless.toList } := by
  obtain ⟨ctx, outcome⟩ := c
  rw [collect]
  cases outcome with
  | none => simp [Candidate.kept, Candidate.accepted, Candidate.keyless]
  | some verdict =>
    cases verdict with
    | error e => simp [Candidate.kept, Candidate.accepted, Candidate.keyless]
    | ok revocation =>
      by_cases hkeep : keep revocation = true
      · simp [Candidate.kept, Candidate.accepted, Candidate.keyless, hkeep, Option.filter]
      · simp [Candidate.kept, Candidate.accepted, Candidate.keyless, hkeep, Option.filter]

theorem noteLineage_eq (m : SearchResult) (s : Discovery σ) :
    noteLineage m s = { s with
      lineageOrder := (noteLineage m s).lineageOrder
      lineageExpect := (noteLineage m s).lineageExpect } := by
  rw [noteLineage]
  split <;> rfl

theorem takeMatch_ok (s s' : Discovery σ) (m : SearchResult) (h : takeMatch net keep s m = .ok s') :
    (m.ctxId ∈ s.seen ∧ s' = noteLineage m s) ∨
    (m.ctxId ∉ s.seen ∧ ∃ c world, c.Checked ∧ s' = { noteLineage m s with
      world := world
      seen := s.seen ++ [m.ctxId]
      revocations := s.revocations ++ (c.kept keep).toList
      deferred := s.deferred ++ c.keyless.toList
      trace := s.trace ++ [.retrieved m.ctxId c] }) := by
  unfold takeMatch at h
  rw [noteLineage_eq] at h
  dsimp only at h
  split at h
  next hseen =>
    obtain rfl := Except.ok.inj h
    exact .inl ⟨hseen, (noteLineage_eq m s).symm⟩
  next hseen =>
    refine .inr ⟨hseen, ?_⟩
    split at h
    · cases h
    next ctx world _ =>
      obtain ⟨⟨c, world'⟩, hc, h⟩ := bind_ok _ _ _ h
      obtain rfl := Except.ok.inj h
      exact ⟨c, world', (checkCandidate_ok net ctx world world' c hc).2, by rw [collect_eq]⟩

structure Progress (named : List SearchResult) (s : Discovery σ) : Prop where
  collected : Collected keep (claims s.trace) s
  checked : ∀ c ∈ served s.trace, c.Checked
  order : s.lineageOrder = (firstsBy (·.lineageId) named).map (·.lineageId)
  expect : s.lineageExpect = (firstsBy (·.lineageId) named).map (fun m => (m.lineageId, m.ctxId))

variable {keep}

theorem Progress.noteLineage_order {named : List SearchResult} {s : Discovery σ} (h : Progress keep named s)
    (m : SearchResult) :
    (noteLineage m s).lineageOrder = (firstsBy (·.lineageId) (named ++ [m])).map (·.lineageId) ∧
      (noteLineage m s).lineageExpect =
        (firstsBy (·.lineageId) (named ++ [m])).map (fun m => (m.lineageId, m.ctxId)) := by
  have hiff : m.lineageId ∈ s.lineageOrder ↔ m.lineageId ∈ named.map (·.lineageId) := by
    rw [h.order]
    exact mem_keys_firstsBy (·.lineageId) named m.lineageId
  rw [noteLineage]
  split
  next hmem =>
    rw [firstsBy_concat_old _ _ _ (hiff.mp hmem)]
    exact ⟨h.order, h.expect⟩
  next hmem =>
    rw [firstsBy_concat_new _ _ _ (fun hold => hmem (hiff.mpr hold)), List.map_append,
      List.map_append, h.order, h.expect]
    exact ⟨rfl, rfl⟩

theorem Progress.takeMatch {named : List SearchResult} {s s' : Discovery σ} (hs : Progress keep named s)
    (m : SearchResult) (h : takeMatch net keep s m = .ok s') :
    Progress keep (named ++ [m]) s' ∧ pages s'.trace = pages s.trace := by
  obtain ⟨horder, hexpect⟩ := hs.noteLineage_order m
  rcases takeMatch_ok net keep s s' m h with ⟨-, rfl⟩ | ⟨hseen, c, world, hchecked, rfl⟩
  · rw [noteLineage_eq]
    exact ⟨⟨⟨hs.collected.seen, hs.collected.revocations, hs.collected.deferred⟩, hs.checked, horder,
      hexpect⟩, rfl⟩
  · refine ⟨⟨?_, ?_, horder, hexpect⟩, ?_⟩
    · rw [claims_append, claims_singleton]
      exact hs.collected.new m.ctxId c hseen rfl rfl rfl
    · intro c' hc'
      rw [served_append, served_singleton] at hc'
      rcases List.mem_append.mp hc' with hc' | hc'
      · exact hs.checked c' hc'
      · obtain rfl := List.mem_singleton.mp hc'
        exact hchecked
    · rw [pages_append]
      exact List.append_nil _

theorem Progress.page {s s' : Discovery σ} (hs : Progress keep (namedBy s.trace) s) (world : σ)
    (asked : SearchParams) (response : SearchResponse)
    (h : response.matches.foldlM (Client.takeMatch net keep)
      { s with world := world, trace := s.trace ++ [.searched asked response] } = .ok s') :
    Progress keep (namedBy s'.trace) s' ∧ pages s'.trace = pages s.trace ++ [(asked, response)] := by
  have hstart : Progress keep (namedBy s.trace)
      { s with world := world, trace := s.trace ++ [.searched asked response] } := by
    refine ⟨⟨?_, ?_, ?_⟩, ?_, hs.order, hs.expect⟩
    · rw [claims_append, claims_singleton, Exchange.claims, List.append_nil]
      exact hs.collected.seen
    · rw [claims_append, claims_singleton, Exchange.claims, List.append_nil]
      exact hs.collected.revocations
    · rw [claims_append, claims_singleton, Exchange.claims, List.append_nil]
      exact hs.collected.deferred
    · rw [served_append, served_singleton, Exchange.served, List.append_nil]
      exact hs.checked
  have hpages : pages (s.trace ++ [.searched asked response]) = pages s.trace ++ [(asked, response)] := by
    rw [pages_append]
    rfl
  obtain ⟨hprogress, hsame⟩ := foldlM_ok_invariant (Client.takeMatch net keep)
    (fun done t => Progress keep (namedBy s.trace ++ done) t ∧
    pages t.trace = pages s.trace ++ [(asked, response)])
    (fun done m t t' ht hstep => by
      obtain ⟨hnext, hkept⟩ := ht.1.takeMatch net m hstep
      exact ⟨by rw [← List.append_assoc]; exact hnext, hkept.trans ht.2⟩)
    response.matches [] _ s' ⟨by rw [List.append_nil]; exact hstart, hpages⟩ h
  have hnamed : namedBy s'.trace = namedBy s.trace ++ response.matches := by
    rw [namedBy, hsame, List.flatMap_append, List.flatMap_singleton, namedBy]
  exact ⟨hnamed ▸ hprogress, hsame⟩

theorem Progress.readPages (pass : String × String) (n : ℕ) (cursor : Option String) {s s' : Discovery σ}
    (hs : Progress keep (namedBy s.trace) s) (h : readPages net params keep pass n cursor s = .ok s') :
    Progress keep (namedBy s'.trace) s' ∧ ∃ read, pages s'.trace = pages s.trace ++ read ∧
      ReadToEnd cursor read ∧ ∀ page ∈ read, page.1.contextType = some pass.1 ∧
      page.1.status = some pass.2 := by
  induction n generalizing cursor s with
  | zero => cases h
  | succ n ih =>
    rw [Client.readPages] at h
    split at h
    · cases h
    next response world _ =>
      obtain ⟨t, ht, h⟩ := bind_ok _ _ _ h
      obtain ⟨hprogress, hpages⟩ := hs.page net world _ response ht
      split at h
      next next hnext =>
        obtain ⟨hlast, read, hread, hend, hpass⟩ := ih (some next) hprogress h
        refine ⟨hlast, (passParams params pass cursor, response) :: read, ?_, ⟨rfl, ?_⟩, ?_⟩
        · rw [hread, hpages, List.append_assoc]
          rfl
        · rw [hnext]
          exact hend
        · exact List.forall_mem_cons.mpr ⟨⟨rfl, rfl⟩, hpass⟩
      next hnext =>
        obtain rfl := Except.ok.inj h
        refine ⟨hprogress, [(passParams params pass cursor, response)], hpages, ⟨rfl, ?_⟩, ?_⟩
        · rw [hnext]
        · exact List.forall_mem_cons.mpr ⟨⟨rfl, rfl⟩, by simp⟩

theorem filter_pass_eq_nil (pass other : String × String) (read : List (SearchParams × SearchResponse))
    (hread : ∀ page ∈ read, page.1.contextType = some pass.1 ∧ page.1.status = some pass.2)
    (hne : other ≠ pass) :
    read.filter (fun page => page.1.contextType = some other.1 ∧ page.1.status = some other.2) = [] := by
  rw [List.filter_eq_nil_iff]
  intro page hpage
  obtain ⟨htype, hstatus⟩ := hread page hpage
  rw [htype, hstatus]
  simp only [Option.some.injEq, decide_eq_true_eq]
  rintro ⟨hfst, hsnd⟩
  exact hne (Prod.ext hfst.symm hsnd.symm)

theorem Progress.readPass {done : List (String × String)} (pass : String × String) {s s' : Discovery σ}
    (hs : Progress keep (namedBy s.trace) s) (hread : ∀ p ∈ done, ReadToEnd none (passPages p s.trace))
    (hleft : ∀ p, p ∉ done → passPages p s.trace = []) (hnew : pass ∉ done)
    (h : readPass net params keep s pass = .ok s') :
    Progress keep (namedBy s'.trace) s' ∧ (∀ p ∈ done ++ [pass], ReadToEnd none (passPages p s'.trace)) ∧
      ∀ p, p ∉ done ++ [pass] → passPages p s'.trace = [] := by
  obtain ⟨hprogress, read, hpages, hend, hpass⟩ := hs.readPages net params pass maxSearchPages none h
  have hadd (p : String × String) : passPages p s'.trace = passPages p s.trace ++
      read.filter (fun page => page.1.contextType = some p.1 ∧ page.1.status = some p.2) := by
    rw [passPages, hpages, List.filter_append]
    rfl
  refine ⟨hprogress, fun p hp => ?_, fun p hp => ?_⟩
  · rw [hadd]
    rcases List.mem_append.mp hp with hp | hp
    · have hne : p ≠ pass := fun he => hnew (he ▸ hp)
      rw [filter_pass_eq_nil pass p read hpass hne, List.append_nil]
      exact hread p hp
    · obtain rfl := List.mem_singleton.mp hp
      rw [hleft p hnew, List.nil_append,
        List.filter_eq_self.mpr (fun page hpage => decide_eq_true (hpass page hpage))]
      exact hend
  · have hp' : p ∉ done ∧ p ≠ pass := by simpa using hp
    rw [hadd, hleft p hp'.1, filter_pass_eq_nil pass p read hpass hp'.2]
    rfl

theorem passes_nodup : passes.Nodup := by decide

theorem Progress.readPasses (world : σ) {s : Discovery σ}
    (h : passes.foldlM (Client.readPass net params keep) (.start world) = .ok s) :
    Progress keep (namedBy s.trace) s ∧ ∀ pass ∈ passes, ReadToEnd none (passPages pass s.trace) := by
  have hstart : Progress keep (namedBy (Discovery.start world).trace) (Discovery.start world) :=
    ⟨⟨fun _ => Iff.rfl, rfl, rfl⟩, by simp [Discovery.start, served], rfl, rfl⟩
  obtain ⟨hprogress, hpasses⟩ := foldlM_ok_invariant (Client.readPass net params keep)
    (fun done t => Progress keep (namedBy t.trace) t ∧ (done.Nodup →
      (∀ p ∈ done, ReadToEnd none (passPages p t.trace)) ∧ ∀ p, p ∉ done → passPages p t.trace = []))
    (fun done pass t t' ht hstep => by
      refine ⟨(ht.1.readPages net params pass maxSearchPages none hstep).1, fun hnodup => ?_⟩
      obtain ⟨hdone, -, hdisjoint⟩ := List.nodup_append.mp hnodup
      have hnew : pass ∉ done := fun hmem => hdisjoint pass hmem pass (List.mem_singleton.mpr rfl) rfl
      obtain ⟨hread, hleft⟩ := ht.2 hdone
      exact (ht.1.readPass net params pass hread hleft hnew hstep).2)
    passes [] _ s ⟨hstart, fun _ => ⟨by simp, fun _ _ => rfl⟩⟩ h
  exact ⟨hprogress, (hpasses passes_nodup).1⟩

theorem Collected.absorbDeferred {cs : List (CtxId × Candidate)} {s : Discovery σ} (hs : Collected keep cs s)
    (c : Candidate) (ctx : FullContext) (hc : c.keyless = some ctx) :
    Collected keep (cs ++ [(c.ctx.body.ctxId, c)]) (absorbDeferred s ctx) := by
  obtain ⟨hnone, rfl⟩ : c.outcome.isNone = true ∧ c.ctx = ctx := by
    rw [Candidate.keyless] at hc
    split at hc
    next hnone => exact ⟨hnone, Option.some.inj hc⟩
    next => cases hc
  have hkept : c.kept keep = none := by
    rw [Candidate.kept, Candidate.accepted, Option.isNone_iff_eq_none.mp hnone]
    rfl
  rw [Client.absorbDeferred]
  split
  next hseen => exact hs.old _ c hseen
  next hseen => exact hs.new _ c hseen rfl (by rw [hkept]; exact (List.append_nil _).symm) (by rw [hc]; rfl)

theorem Collected.absorbVerified {cs : List (CtxId × Candidate)} {s : Discovery σ} (hs : Collected keep cs s)
    (c : Candidate) (revocation : KeyRevocation) (hc : c.accepted = some revocation) :
    Collected keep (cs ++ [(c.ctx.body.ctxId, c)])
      (absorbVerified keep s (c.ctx.body.ctxId, revocation)) := by
  have hkeyless : c.keyless = none := by
    rw [Candidate.keyless]
    split
    next hnone =>
      rw [Candidate.accepted, Option.isNone_iff_eq_none.mp hnone] at hc
      cases hc
    next => rfl
  rw [Client.absorbVerified]
  split
  next hseen => exact hs.old _ c hseen
  next hseen =>
    split
    next hkeep =>
      refine hs.new _ c hseen rfl ?_ (by rw [hkeyless]; exact (List.append_nil _).symm)
      rw [Candidate.kept, hc, Option.filter_some_pos hkeep]
      rfl
    next hkeep =>
      refine hs.new _ c hseen rfl ?_ (by rw [hkeyless]; exact (List.append_nil _).symm)
      rw [Candidate.kept, hc, Option.filter_some_neg (Bool.eq_false_iff.mpr hkeep)]
      exact (List.append_nil _).symm

theorem Collected.absorbAllDeferred (members : List Candidate) {cs : List (CtxId × Candidate)}
    {s : Discovery σ} (hs : Collected keep cs s) :
    Collected keep (cs ++ (members.filter (·.keyless.isSome)).map (fun c => (c.ctx.body.ctxId, c)))
      ((members.filterMap Candidate.keyless).foldl Client.absorbDeferred s) := by
  induction members generalizing cs s with
  | nil => simpa using hs
  | cons c rest ih =>
    cases hc : c.keyless with
    | none =>
      rw [List.filter_cons_of_neg (by simp [hc]), List.filterMap_cons_none hc]
      exact ih hs
    | some ctx =>
      rw [List.filter_cons_of_pos (by simp [hc]), List.filterMap_cons_some hc, List.map_cons,
        List.append_cons, List.foldl_cons]
      exact ih (hs.absorbDeferred c ctx hc)

theorem Collected.absorbAllVerified (members : List Candidate) {cs : List (CtxId × Candidate)}
    {s : Discovery σ} (hs : Collected keep cs s) :
    Collected keep (cs ++ (members.filter (·.accepted.isSome)).map (fun c => (c.ctx.body.ctxId, c)))
      ((members.filterMap (fun c => c.accepted.map (fun revocation => (c.ctx.body.ctxId, revocation)))).foldl
        (Client.absorbVerified keep) s) := by
  induction members generalizing cs s with
  | nil => simpa using hs
  | cons c rest ih =>
    cases hc : c.accepted with
    | none =>
      rw [List.filter_cons_of_neg (by simp [hc]), List.filterMap_cons_none (by rw [hc]; rfl)]
      exact ih hs
    | some revocation =>
      rw [List.filter_cons_of_pos (by simp [hc]), List.filterMap_cons_some (by rw [hc]; rfl), List.map_cons,
        List.append_cons, List.foldl_cons]
      exact ih (hs.absorbVerified c revocation hc)

theorem absorbDeferred_frame (s : Discovery σ) (ctx : FullContext) :
    (absorbDeferred s ctx).trace = s.trace ∧ (absorbDeferred s ctx).lineageOrder = s.lineageOrder ∧
      (absorbDeferred s ctx).lineageExpect = s.lineageExpect := by
  rw [Client.absorbDeferred]
  split <;> exact ⟨rfl, rfl, rfl⟩

theorem absorbVerified_frame (s : Discovery σ) (p : CtxId × KeyRevocation) :
    (absorbVerified keep s p).trace = s.trace ∧ (absorbVerified keep s p).lineageOrder = s.lineageOrder ∧
      (absorbVerified keep s p).lineageExpect = s.lineageExpect := by
  rw [Client.absorbVerified]
  split
  · exact ⟨rfl, rfl, rfl⟩
  · split <;> exact ⟨rfl, rfl, rfl⟩

theorem foldl_frame {α β : Type} (f : σ → α → σ) (view : σ → β)
    (hf : ∀ s a, view (f s a) = view s) (l : List α) (s : σ) : view (l.foldl f s) = view s := by
  induction l generalizing s with
  | nil => rfl
  | cons a l ih => rw [List.foldl_cons, ih, hf]

theorem walkRevocationLineage_ok (lineageId : LineageId) (expectMember : Option CtxId) (world world' : σ)
    (candidates : List Candidate) (walked : Walked)
    (h : walkRevocationLineage net lineageId expectMember world = .ok (candidates, walked, world')) :
    walked = walkedOf candidates ∧ (∀ c ∈ candidates, c.Checked) ∧
      ∀ expected, expectMember = some expected → ∃ c ∈ candidates, c.ctx.body.ctxId = expected := by
  rw [walkRevocationLineage] at h
  split at h
  · cases h
  next members world'' _ =>
    split at h
    · cases h
    split at h
    · cases h
    next hexpect =>
      obtain ⟨⟨cs, last⟩, hcs, h⟩ := bind_ok _ _ _ h
      obtain ⟨rfl, hrest⟩ := Prod.mk.inj (Except.ok.inj h)
      obtain ⟨rfl, rfl⟩ := Prod.mk.inj hrest
      obtain ⟨hctx, hchecked⟩ := checkMembers_ok net members world'' last cs hcs
      refine ⟨rfl, hchecked, fun expected he => ?_⟩
      rw [he, ← hctx] at hexpect
      simpa using hexpect

theorem Progress.walkLineage {named : List SearchResult} {s s' : Discovery σ} (hs : Progress keep named s)
    (lineageId : LineageId) (h : walkLineage net keep s lineageId = .ok s') :
    Progress keep named s' ∧ ∃ members, s'.trace = s.trace ++ [.walked lineageId members] ∧
      ∀ expected, s.lineageExpect.lookup lineageId = some expected →
      ∃ c ∈ members, c.ctx.body.ctxId = expected := by
  rw [Client.walkLineage] at h
  obtain ⟨⟨members, walked, world⟩, hwalked, h⟩ := bind_ok _ _ _ h
  obtain ⟨rfl, hchecked, hexpected⟩ := walkRevocationLineage_ok net lineageId _ _ _ _ _ hwalked
  obtain rfl := Except.ok.inj h
  generalize hstart : ({ s with world := world, trace := s.trace ++ [Exchange.walked lineageId members] } :
    Discovery σ) = start
  have hframe {β : Type} (view : Discovery σ → β) (hd : ∀ t ctx, view (Client.absorbDeferred t ctx) = view t)
      (hv : ∀ t p, view (Client.absorbVerified keep t p) = view t) :
      view ((walkedOf members).verified.foldl (Client.absorbVerified keep)
        ((walkedOf members).deferred.foldl Client.absorbDeferred start)) = view start := by
    rw [foldl_frame _ view hv, foldl_frame _ view hd]
  have htrace := (hframe (·.trace) (fun t ctx => (absorbDeferred_frame t ctx).1)
    (fun t p => (absorbVerified_frame t p).1)).trans (congrArg (·.trace) hstart.symm)
  have horder := (hframe (·.lineageOrder) (fun t ctx => (absorbDeferred_frame t ctx).2.1)
    (fun t p => (absorbVerified_frame t p).2.1)).trans (congrArg (·.lineageOrder) hstart.symm)
  have hexpect := (hframe (·.lineageExpect) (fun t ctx => (absorbDeferred_frame t ctx).2.2)
    (fun t p => (absorbVerified_frame t p).2.2)).trans (congrArg (·.lineageExpect) hstart.symm)
  have hcollected : Collected keep (claims s.trace) start := by
    rw [← hstart]
    exact ⟨hs.collected.seen, hs.collected.revocations, hs.collected.deferred⟩
  have hclaims := Collected.absorbAllVerified members (Collected.absorbAllDeferred members hcollected)
  refine ⟨⟨?_, ?_, horder.trans hs.order, hexpect.trans hs.expect⟩, members, htrace, hexpected⟩
  · rw [htrace, claims_append, claims_singleton, Exchange.claims, List.map_append, ← List.append_assoc]
    exact hclaims
  · intro c hc
    rw [htrace, served_append, served_singleton, Exchange.served] at hc
    rcases List.mem_append.mp hc with hc | hc
    · exact hs.checked c hc
    · exact hchecked c hc

theorem lookup_map_pair {α β κ : Type} [DecidableEq κ] (key : α → κ) (value : α → β) (l : List α) (k : κ) :
    (l.map (fun a => (key a, value a))).lookup k = (l.find? (fun a => key a = k)).map value := by
  induction l with
  | nil => rfl
  | cons a l ih =>
    rw [List.map_cons, List.lookup_cons, List.find?_cons]
    by_cases ha : key a = k
    · simp [ha]
    · rw [beq_false_of_ne (Ne.symm ha)]
      simpa [ha] using ih

theorem discoverRevocations_ok (world : σ) (s : Discovery σ)
    (h : discoverRevocations net params keep world = .ok s) :
    Progress keep (namedBy s.trace) s ∧ (∀ pass ∈ passes, ReadToEnd none (passPages pass s.trace)) ∧
      ∀ m ∈ namedBy s.trace, ∃ members first, .walked m.lineageId members ∈ s.trace ∧
        (namedBy s.trace).find? (fun other => other.lineageId = m.lineageId) = some first ∧
        ∃ c ∈ members, c.ctx.body.ctxId = first.ctxId := by
  rw [discoverRevocations] at h
  obtain ⟨t, ht, h⟩ := bind_ok _ _ _ h
  obtain ⟨hprogress, hpasses⟩ := Progress.readPasses net params world ht
  split at h
  · cases h
  obtain ⟨hlast, hpages, -, hwalked⟩ := foldlM_ok_invariant (Client.walkLineage net keep)
    (fun done u => Progress keep (namedBy t.trace) u ∧ pages u.trace = pages t.trace ∧
      u.lineageExpect = t.lineageExpect ∧ ∀ lineageId ∈ done, ∃ members, .walked lineageId members ∈ u.trace ∧
        ∀ expected, t.lineageExpect.lookup lineageId = some expected →
        ∃ c ∈ members, c.ctx.body.ctxId = expected)
    (fun done lineageId u u' hu hstep => by
      obtain ⟨hu, hpages, hexpect, hdone⟩ := hu
      obtain ⟨hu', members, htrace, hmember⟩ := hu.walkLineage net lineageId hstep
      refine ⟨hu', ?_, hu'.expect.trans (hu.expect.symm.trans hexpect), fun other hother => ?_⟩
      · rw [htrace, pages_append, hpages]
        exact List.append_nil _
      · rcases List.mem_append.mp hother with hother | hother
        · obtain ⟨members', hmem, hexpected⟩ := hdone other hother
          exact ⟨members', by rw [htrace]; exact List.mem_append_left _ hmem, hexpected⟩
        · obtain rfl := List.mem_singleton.mp hother
          exact ⟨members, by rw [htrace]; simp, by rw [← hexpect]; exact hmember⟩)
    t.lineageOrder [] t s ⟨hprogress, rfl, rfl, by simp⟩ h
  have hnamed : namedBy s.trace = namedBy t.trace := by rw [namedBy, hpages, namedBy]
  refine ⟨hnamed ▸ hlast, fun pass hpass => ?_, fun m hm => ?_⟩
  · rw [passPages, hpages]
    exact hpasses pass hpass
  · rw [hnamed] at hm ⊢
    have horder : m.lineageId ∈ t.lineageOrder := by
      rw [hprogress.order, mem_keys_firstsBy SearchResult.lineageId]
      exact List.mem_map_of_mem hm
    have hfirst : ((namedBy t.trace).find? (fun other => other.lineageId = m.lineageId)).isSome = true := by
      rw [List.find?_isSome]
      exact ⟨m, hm, by simp⟩
    obtain ⟨first, hfirst⟩ := Option.isSome_iff_exists.mp hfirst
    obtain ⟨members, hmem, hexpected⟩ := hwalked m.lineageId (by simpa using horder)
    refine ⟨members, first, hmem, hfirst, hexpected first.ctxId ?_⟩
    rw [hprogress.expect, lookup_map_pair, find?_firstsBy SearchResult.lineageId, hfirst]
    rfl

theorem mem_claims_of_served (trace : List Exchange) (c : Candidate) (hc : c ∈ served trace)
    (hevidence : c.keyless.isSome = true ∨ c.accepted.isSome = true) : ∃ id, (id, c) ∈ claims trace := by
  obtain ⟨exchange, hexchange, hc⟩ := List.mem_flatMap.mp hc
  suffices ∃ id, (id, c) ∈ exchange.claims by
    obtain ⟨id, hid⟩ := this
    exact ⟨id, List.mem_flatMap.mpr ⟨exchange, hexchange, hid⟩⟩
  cases exchange with
  | searched asked response => cases hc
  | retrieved requested candidate =>
    obtain rfl := List.mem_singleton.mp hc
    exact ⟨requested, List.mem_singleton.mpr rfl⟩
  | walked lineageId members =>
    refine ⟨c.ctx.body.ctxId, List.mem_map_of_mem (List.mem_append.mpr ?_)⟩
    rcases hevidence with hkeyless | haccepted
    · exact .inl (List.mem_filter.mpr ⟨hc, hkeyless⟩)
    · exact .inr (List.mem_filter.mpr ⟨hc, haccepted⟩)

theorem mem_served_of_claims (trace : List Exchange) (p : CtxId × Candidate) (hp : p ∈ claims trace) :
    p.2 ∈ served trace := by
  obtain ⟨exchange, hexchange, hp⟩ := List.mem_flatMap.mp hp
  refine List.mem_flatMap.mpr ⟨exchange, hexchange, ?_⟩
  cases exchange with
  | searched asked response => cases hp
  | retrieved requested candidate =>
    obtain rfl := List.mem_singleton.mp hp
    exact List.mem_singleton.mpr rfl
  | walked lineageId members =>
    obtain ⟨c, hc, rfl⟩ := List.mem_map.mp hp
    rcases List.mem_append.mp hc with hc | hc
    · exact (List.mem_filter.mp hc).1
    · exact (List.mem_filter.mp hc).1

theorem Candidate.accepted_eq_some_iff (c : Candidate) (revocation : KeyRevocation) :
    c.accepted = some revocation ↔ c.outcome = some (.ok revocation) := by
  rw [Candidate.accepted]
  split
  next r heq => simp [heq]
  next hne => exact ⟨fun h => (nomatch h), fun h => absurd h (hne revocation)⟩

theorem Candidate.keyless_eq_some_iff (c : Candidate) (ctx : FullContext) :
    c.keyless = some ctx ↔ c.outcome = none ∧ c.ctx = ctx := by
  rw [Candidate.keyless]
  split
  next hnone => simp [Option.isNone_iff_eq_none.mp hnone]
  next hsome => simpa using fun h => absurd (Option.isNone_iff_eq_none.mpr h) hsome

/-- Discovery keeps every piece of verified evidence exactly when no id hides any. -/
theorem evidence_kept_iff_nothing_hidden (world : σ) (s : Discovery σ)
    (h : discoverRevocations net params keep world = .ok s) :
    EvidenceKept keep s ↔ NothingHidden keep s.trace := by
  obtain ⟨hprogress, hpasses, hlineages⟩ := discoverRevocations_ok net params world s h
  have hrevocations (revocation : KeyRevocation) : revocation ∈ s.revocations ↔
      keep revocation = true ∧ ∃ q ∈ firstsBy Prod.fst (claims s.trace), q.2.accepted = some revocation := by
    rw [hprogress.collected.revocations, List.mem_filterMap]
    simp only [Candidate.kept, Option.filter_eq_some_iff]
    constructor
    · rintro ⟨q, hq, haccepted, hkeep⟩
      exact ⟨hkeep, q, hq, haccepted⟩
    · rintro ⟨hkeep, q, hq, haccepted⟩
      exact ⟨q, hq, haccepted, hkeep⟩
  constructor
  · intro hkept
    refine ⟨fun p hp revocation haccepted hkeep => ?_, fun p hp ctx hkeyless => ?_⟩
    · have hserved := mem_served_of_claims s.trace p hp
      have houtcome := (p.2.accepted_eq_some_iff revocation).mp haccepted
      have hkey : isKeylessKeyId p.2.ctx.body.signature.keyId = false := by
        rw [← Bool.not_eq_true, ← (hprogress.checked p.2 hserved).keyless, houtcome]
        simp
      exact ((hrevocations revocation).mp (hkept.revocations p.2 hserved hkey revocation houtcome hkeep)).2
    · have hserved := mem_served_of_claims s.trace p hp
      obtain ⟨hnone, rfl⟩ := (p.2.keyless_eq_some_iff ctx).mp hkeyless
      obtain ⟨ctx', hctx', hbody⟩ :=
        hkept.deferred p.2 hserved ((hprogress.checked p.2 hserved).keyless.mp hnone)
      rw [hprogress.collected.deferred, List.mem_filterMap] at hctx'
      obtain ⟨q, hq, hkeyless'⟩ := hctx'
      exact ⟨q, hq, ctx', hkeyless', hbody⟩
  · intro hnothing
    refine ⟨fun c hc _ revocation houtcome hkeep => ?_, fun c hc hkey => ?_, fun c hc => ?_,
      hpasses, hlineages⟩
    · have haccepted := (c.accepted_eq_some_iff revocation).mpr houtcome
      obtain ⟨id, hclaim⟩ := mem_claims_of_served s.trace c hc (.inr (by rw [haccepted]; rfl))
      exact (hrevocations revocation).mpr
        ⟨hkeep, hnothing.revocations (id, c) hclaim revocation haccepted hkeep⟩
    · have hkeyless := (c.keyless_eq_some_iff c.ctx).mpr ⟨(hprogress.checked c hc).keyless.mpr hkey, rfl⟩
      obtain ⟨id, hclaim⟩ := mem_claims_of_served s.trace c hc (.inl (by rw [hkeyless]; rfl))
      obtain ⟨q, hq, ctx', hkeyless', hbody⟩ := hnothing.deferred (id, c) hclaim c.ctx hkeyless
      rw [hprogress.collected.deferred]
      exact ⟨ctx', List.mem_filterMap.mpr ⟨q, hq, hkeyless'⟩, hbody⟩
    · exact (hprogress.checked c hc).nonFatal

end Steps

section Hidden

def hiddenCtxId : CtxId := "acdp://r.example/11111111-1111-4111-8111-111111111111"

def hiddenLineage : LineageId := "lin:sha256:75b66aae10cee7c12a650f85e94aaa240ad10bfe75eff8b184529e4c5ad3f06b"

def servedContext (signatureValue : String) : FullContext where
  body := {
    ctxId := hiddenCtxId
    lineageId := hiddenLineage
    originRegistry := "r.example"
    createdAt := ⟨0, by omega, by omega⟩
    contentHash := "sha256:27616d2e393b76fd36f7b9f3b663bef6c262d25f30bbb750cbca69542f70dd9f"
    signature := ⟨"ed25519", "did:web:a.example#k", signatureValue⟩
    version := 1
    supersedes := none
    agentId := "did:web:a.example"
    contributors := []
    title := "Key compromise"
    contextType := .keyRevocation
    dataRefs := []
    derivedFrom := []
    visibility := .public
    audience := none
    acdpVersion := none
    description := none
    summary := none
    tags := none
    domain := none
    expiresAt := none
    dataPeriod := none
    metadata := none
    schemaUri := none
    anchors := none
    extensions := [] }
  registryState := ⟨.active, none, none, []⟩
  registryReceipt := none
  lineageHeadReceipt := none
  logInclusion := none
  extensions := []
  rawBody := none

def hiddenRevocation : KeyRevocation where
  revokedKeyFingerprint := "sha256:fe7b60bbb3e6944c5aa217c3a56313573be62de5707eeb0c79418448ceb9f5de"
  compromisedSince := ⟨0, by omega, by omega⟩
  reason := none
  revokedKeyId := none
  publisher := "did:web:a.example"
  revokedKeyController := "did:web:a.example"
  trustClass := .producerSigned
  ctxId := some hiddenCtxId

def hiddenMatch : SearchResult where
  ctxId := hiddenCtxId
  lineageId := hiddenLineage
  agentId := "did:web:a.example"
  title := "Key compromise"
  summary := none
  contextType := .keyRevocation
  domain := none
  createdAt := ⟨0, by omega, by omega⟩
  status := .active
  visibility := none

def oneRevocation (retrieved : String) : Network Unit where
  search := fun asked world =>
    if asked.contextType = some "key-revocation" ∧ asked.status = some "active" then
      (.ok ⟨[hiddenMatch], none, none⟩, world)
    else (.ok ⟨[], none, none⟩, world)
  retrieve := fun _ world => (.ok (servedContext retrieved), world)
  lineage := fun _ world => (.ok [servedContext "genuine"], world)
  verifyRevocationCandidate := fun ctx world =>
    if ctx.body.signature.value = "genuine" then (.ok hiddenRevocation, world)
    else (.error (.acdp (.invalidSignature "signature verification failed")), world)

def hiddenParams : DiscoveryParams :=
  ⟨"did:web:a.example", "find_revocations", "agent_id", "did:web:a.example"⟩

theorem genuine_revocation_kept : ∃ s,
    discoverRevocations (oneRevocation "genuine") hiddenParams (fun _ => true) () = .ok s ∧
      EvidenceKept (fun _ => true) s := by
  have hrun : (discoverRevocations (oneRevocation "genuine") hiddenParams (fun _ => true) ()).toOption.map
      (fun s => (claims s.trace).map (fun p => (p.1, p.2.accepted, p.2.keyless))) =
        some [(hiddenCtxId, some hiddenRevocation, none), (hiddenCtxId, some hiddenRevocation, none)] := by
    decide +kernel
  cases h : discoverRevocations (oneRevocation "genuine") hiddenParams (fun _ => true) () with
  | error e =>
    rw [h] at hrun
    cases hrun
  | ok s =>
    rw [h] at hrun
    have hclaims : (claims s.trace).map (fun p => (p.1, p.2.accepted, p.2.keyless)) =
        [(hiddenCtxId, some hiddenRevocation, none), (hiddenCtxId, some hiddenRevocation, none)] :=
      Option.some.inj hrun
    refine ⟨s, rfl, (evidence_kept_iff_nothing_hidden _ _ () s h).mpr ?_⟩
    have hall : ∀ p ∈ claims s.trace, p.2.accepted = some hiddenRevocation ∧ p.2.keyless = none := by
      intro p hp
      have hmem := List.mem_map_of_mem (f := fun p : CtxId × Candidate => (p.1, p.2.accepted, p.2.keyless)) hp
      rw [hclaims] at hmem
      simp only [List.mem_cons, Prod.mk.injEq, List.not_mem_nil, or_false] at hmem
      rcases hmem with ⟨-, haccepted, hkeyless⟩ | ⟨-, haccepted, hkeyless⟩
      · exact ⟨haccepted, hkeyless⟩
      · exact ⟨haccepted, hkeyless⟩
    refine ⟨fun p hp revocation haccepted _ => ?_, fun p hp ctx hkeyless => ?_⟩
    · obtain ⟨q, hq, -⟩ := List.mem_map.mp ((mem_keys_firstsBy Prod.fst (claims s.trace) p.1).mpr
        (List.mem_map_of_mem hp))
      have hfirst := (hall q (mem_of_mem_firstsBy _ _ _ hq)).1
      rw [(hall p hp).1] at haccepted
      exact ⟨q, hq, hfirst.trans haccepted⟩
    · rw [(hall p hp).2] at hkeyless
      cases hkeyless

theorem forged_retrieve_hides_revocation : ∃ s,
    discoverRevocations (oneRevocation "forged") hiddenParams (fun _ => true) () = .ok s ∧
      s.revocations = [] ∧ ¬ EvidenceKept (fun _ => true) s := by
  have hrun : (discoverRevocations (oneRevocation "forged") hiddenParams (fun _ => true) ()).toOption.map
      (fun s => (s.revocations,
      (served s.trace).map (fun c => (c.accepted, isKeylessKeyId c.ctx.body.signature.keyId))))
        = some ([], [(none, false), (some hiddenRevocation, false)]) := by
    decide +kernel
  cases h : discoverRevocations (oneRevocation "forged") hiddenParams (fun _ => true) () with
  | error e =>
    rw [h] at hrun
    cases hrun
  | ok s =>
    rw [h] at hrun
    obtain ⟨hrevocations, hserved⟩ := Prod.mk.inj (Option.some.inj hrun)
    refine ⟨s, rfl, hrevocations, fun hkept => ?_⟩
    have hmem : (some hiddenRevocation, false) ∈ (served s.trace).map (fun c =>
        (c.accepted, isKeylessKeyId c.ctx.body.signature.keyId)) := by
      rw [hserved]
      simp
    obtain ⟨c, hc, hpair⟩ := List.mem_map.mp hmem
    obtain ⟨haccepted, hkey⟩ := Prod.mk.inj hpair
    have hlost := hkept.revocations c hc hkey hiddenRevocation
      ((c.accepted_eq_some_iff hiddenRevocation).mp haccepted) rfl
    rw [hrevocations] at hlost
    cases hlost

end Hidden

end Acdp.Client
