import Acdp.Client.RevocationCache

namespace Acdp.Client

open Acdp.Types
open Std (ExtTreeMap)

namespace FactSet

def Holds (set : FactSet) (f : KeyRevocation) : Prop := ∃ stored ∈ set.facts, stored.rev = f

def Grown (set set' : FactSet) : Prop :=
  set.facts <+: set'.facts ∧ ∀ cls origin, set.full cls origin = true → set'.full cls origin = true

theorem Grown.refl (set : FactSet) : Grown set set := ⟨List.prefix_rfl, fun _ _ h => h⟩

theorem Grown.trans {a b c : FactSet} (hab : Grown a b) (hbc : Grown b c) : Grown a c :=
  ⟨hab.1.trans hbc.1, fun cls origin h => hbc.2 cls origin (hab.2 cls origin h)⟩

theorem Grown.holds {set set' : FactSet} (h : Grown set set') (f : KeyRevocation) (hf : set.Holds f) :
    set'.Holds f := by
  obtain ⟨stored, hmem, hrev⟩ := hf
  exact ⟨stored, h.1.subset hmem, hrev⟩

theorem markFull_full (set : FactSet) (cls : RevocationTrustClass) (origin : String) :
    (set.markFull cls origin).full cls origin = true := by
  cases cls <;> simp [markFull, full]

theorem grown_markFull (set : FactSet) (cls : RevocationTrustClass) (origin : String) :
    Grown set (set.markFull cls origin) := by
  constructor
  · cases cls <;> exact List.prefix_rfl
  · intro cls' origin' h
    cases cls <;> cases cls' <;> simp_all [markFull, full]

theorem holds_iff_any (set : FactSet) (f : KeyRevocation) :
    set.facts.any (fun existing => existing.rev == f) = true ↔ set.Holds f := by
  simp [Holds]

theorem grown_admitFact (authority : String) (set : FactSet) (f : KeyRevocation) :
    Grown set (set.admitFact authority f) := by
  rw [admitFact]
  split
  · exact .refl set
  · split
    · exact grown_markFull set f.trustClass authority
    · exact ⟨List.prefix_append _ _, fun cls origin h => by cases cls <;> exact h⟩

theorem admitFact_holds_or_full (authority : String) (set : FactSet) (f : KeyRevocation) :
    (set.admitFact authority f).Holds f ∨ (set.admitFact authority f).full f.trustClass authority = true := by
  rw [admitFact]
  split
  · next h => exact .inl ((holds_iff_any set f).mp h)
  · split
    · exact .inr (markFull_full set f.trustClass authority)
    · exact .inl ⟨⟨f, authority⟩, by simp, rfl⟩

theorem mem_admitFact (authority : String) (set : FactSet) (f : KeyRevocation) (stored : StoredFact)
    (h : stored ∈ (set.admitFact authority f).facts) : stored ∈ set.facts ∨ stored = ⟨f, authority⟩ := by
  rw [admitFact] at h
  split at h
  · exact .inl h
  · split at h
    · left
      cases hcls : f.trustClass <;> rw [hcls] at h <;> exact h
    · simpa using h

def admitFacts (authority : String) (set : FactSet) (facts : List KeyRevocation) : FactSet :=
  facts.foldl (admitFact authority) set

theorem grown_admitFacts (authority : String) (set : FactSet) (facts : List KeyRevocation) :
    Grown set (admitFacts authority set facts) := by
  induction facts generalizing set with
  | nil => exact .refl set
  | cons f facts ih => exact (grown_admitFact authority set f).trans (ih _)

theorem admitFacts_holds_or_full (authority : String) (set : FactSet) (facts : List KeyRevocation)
    (f : KeyRevocation) (hf : f ∈ facts) :
    (admitFacts authority set facts).Holds f ∨
      (admitFacts authority set facts).full f.trustClass authority = true := by
  induction facts generalizing set with
  | nil => cases hf
  | cons g facts ih =>
    rcases List.mem_cons.mp hf with rfl | hf
    · have hgrown := grown_admitFacts authority (set.admitFact authority f) facts
      rcases admitFact_holds_or_full authority set f with h | h
      · exact .inl (hgrown.holds f h)
      · exact .inr (hgrown.2 _ _ h)
    · exact ih _ hf

theorem mem_admitFacts (authority : String) (set : FactSet) (facts : List KeyRevocation) (stored : StoredFact)
    (h : stored ∈ (admitFacts authority set facts).facts) :
    stored ∈ set.facts ∨ stored.origin = authority ∧ stored.rev ∈ facts := by
  induction facts generalizing set with
  | nil => exact .inl h
  | cons f facts ih =>
    rcases ih _ h with h | ⟨horigin, hrev⟩
    · rcases mem_admitFact authority set f stored h with h | rfl
      · exact .inl h
      · exact .inr ⟨rfl, List.mem_cons_self⟩
    · exact .inr ⟨horigin, .tail _ hrev⟩

end FactSet

section Length

variable {α : Type*} {β : α → Type*} [DecidableEq α]

omit [DecidableEq α] in
theorem entries_length_eq (m : AList β) : m.entries.length = m.keys.length := by
  simp [AList.keys, List.keys]

theorem entries_length_insert (m : AList β) (a : α) (b : β a) :
    (m.insert a b).entries.length = if a ∈ m then m.entries.length else m.entries.length + 1 := by
  simp only [entries_length_eq, AList.keys_insert, List.length_cons, List.length_erase, AList.mem_keys]
  split
  · next hmem =>
    have := List.length_pos_of_mem hmem
    omega
  · rfl

theorem entries_length_erase (m : AList β) (a : α) :
    (m.erase a).entries.length = if a ∈ m then m.entries.length - 1 else m.entries.length := by
  simp only [entries_length_eq, AList.keys_erase, List.length_erase, AList.mem_keys]

end Length

namespace RevocationCache

def markerKey (call : RecordSuccess) : MarkerKey := (call.agentId, call.authority, classKey call.cls)

def admitted (cache : RevocationCache) (call : RecordSuccess) : FactSet :=
  FactSet.admitFacts call.authority (cache.factSet call.agentId) call.facts

theorem recordSuccess_facts (cache : RevocationCache) (call : RecordSuccess) :
    (cache.recordSuccess call).facts = cache.facts.insert call.agentId (cache.admitted call) := by
  rw [recordSuccess]
  simp only
  split <;> rfl

theorem factSet_recordSuccess (cache : RevocationCache) (call : RecordSuccess) (agentId : String) :
    (cache.recordSuccess call).factSet agentId =
      if call.agentId = agentId then cache.admitted call else cache.factSet agentId := by
  rw [factSet, recordSuccess_facts, ExtTreeMap.getElem?_insert]
  simp only [Std.LawfulEqCmp.compare_eq_iff_eq]
  split <;> rfl

theorem grown_factSet_recordSuccess (cache : RevocationCache) (call : RecordSuccess) (agentId : String) :
    (cache.factSet agentId).Grown ((cache.recordSuccess call).factSet agentId) := by
  rw [factSet_recordSuccess]
  split
  · next h =>
    subst h
    exact FactSet.grown_admitFacts _ _ _
  · exact .refl _

theorem factsFor_eq (cache : RevocationCache) (agentId : String) (attested : Bool) (vantage : Option String) :
    cache.factsFor agentId attested vantage =
      ((cache.factSet agentId).facts.filter (fun f => match f.rev.trustClass with
        | .producerSigned => true
        | .registryAttested =>
          attested && vantage.any (· == f.origin))).map (fun f => (f.rev, f.origin)) := by
  rw [factsFor, factSet]
  cases cache.facts[agentId]? <;> rfl

theorem factsFor_grows (cache cache' : RevocationCache) (agentId : String) (attested : Bool)
    (vantage : Option String) (h : (cache.factSet agentId).Grown (cache'.factSet agentId)) :
    cache.factsFor agentId attested vantage <+: cache'.factsFor agentId attested vantage := by
  rw [factsFor_eq, factsFor_eq]
  exact (h.1.filter _).map _

theorem mem_markers_recordSuccess (cache : RevocationCache) (call : RecordSuccess) (key : MarkerKey)
    (h : key ∈ (cache.recordSuccess call).markers) :
    (key ≠ markerKey call ∧ key ∈ cache.markers) ∨
      (key = markerKey call ∧ (cache.admitted call).full call.cls call.authority = false) := by
  rw [recordSuccess] at h
  simp only at h
  split at h
  · rw [AList.mem_erase] at h
    exact .inl h
  · next hfull =>
    by_cases hkey : key = markerKey call
    · exact .inr ⟨hkey, Bool.eq_false_iff.mpr hfull⟩
    · left
      refine ⟨hkey, ?_⟩
      rw [AList.mem_insert] at h
      rcases h with h | h
      · exact absurd h hkey
      · split at h
        · rw [evictOldest] at h
          split at h
          · exact (AList.mem_erase.mp h).2
          · exact h
        · exact h

theorem entries_length_evictOldest (order : IterOrder (Sigma (fun _ : MarkerKey => Marker)))
    (markers : AList (fun _ : MarkerKey => Marker)) (h : markers.entries ≠ []) :
    (evictOldest order markers).entries.length = markers.entries.length - 1 := by
  have hperm := order.visit_perm markers.entries
  rw [evictOldest]
  split
  · next oldest hmin =>
    have hmem : oldest ∈ markers.entries := hperm.mem_iff.mp (List.argmin_mem hmin)
    have hkey : oldest.1 ∈ markers := List.mem_map.mpr ⟨oldest, hmem, rfl⟩
    rw [entries_length_erase, if_pos hkey]
  · next hnone =>
    rw [List.argmin_eq_none] at hnone
    rw [hnone] at hperm
    exact absurd hperm.nil_eq.symm h

theorem markers_length_recordSuccess (cache : RevocationCache) (call : RecordSuccess)
    (h : cache.markers.entries.length ≤ maxMarkers) :
    (cache.recordSuccess call).markers.entries.length ≤ maxMarkers := by
  rw [recordSuccess]
  simp only
  split
  · rw [entries_length_erase]
    split <;> omega
  · split
    · next hcap =>
      have hne : cache.markers.entries ≠ [] := by
        intro hnil
        have := hcap.2
        rw [hnil] at this
        exact absurd this (by decide)
      rw [entries_length_insert, entries_length_evictOldest _ _ hne]
      have hpos : 0 < cache.markers.entries.length := List.length_pos_iff.mpr hne
      split <;> omega
    · next hroom =>
      rw [entries_length_insert]
      split
      · exact h
      · next hkey =>
        have : ¬ maxMarkers ≤ cache.markers.entries.length := fun hlen => hroom ⟨hkey, hlen⟩
        omega

/-- What ties the cache to the calls made so far. -/
structure Tracks (calls : List RecordSuccess) (cache : RevocationCache) : Prop where
  recorded : ∀ agentId, ∀ stored ∈ (cache.factSet agentId).facts,
    ∃ call ∈ calls, call.agentId = agentId ∧ call.authority = stored.origin ∧ stored.rev ∈ call.facts
  held_or_full : ∀ call ∈ calls, ∀ f ∈ call.facts, (cache.factSet call.agentId).Holds f ∨
    (cache.factSet call.agentId).full f.trustClass call.authority = true
  marked : ∀ call ∈ calls, markerKey call ∈ cache.markers →
    ∀ f ∈ call.facts, (cache.factSet call.agentId).Holds f
  bounded : cache.markers.entries.length ≤ maxMarkers

theorem tracks_new : Tracks [] new where
  recorded := by
    intro agentId stored h
    have hnone : (new.facts)[agentId]? = none := ExtTreeMap.getElem?_empty
    rw [factSet, hnone] at h
    cases h
  held_or_full := by simp
  marked := by simp
  bounded := Nat.zero_le _

theorem classKey_inj (a b : RevocationTrustClass) (h : classKey a = classKey b) : a = b := by
  cases a <;> cases b <;> simp_all [classKey]

theorem Tracks.recordSuccess {calls : List RecordSuccess} {cache : RevocationCache} (h : Tracks calls cache)
    (call : RecordSuccess) (hclass : ∀ c ∈ calls ++ [call], ∀ f ∈ c.facts, f.trustClass = c.cls) :
    Tracks (calls ++ [call]) (cache.recordSuccess call) := by
  have hself : (cache.recordSuccess call).factSet call.agentId = cache.admitted call := by
    rw [factSet_recordSuccess, if_pos rfl]
  have hheld : ∀ c ∈ calls ++ [call], ∀ f ∈ c.facts, ((cache.recordSuccess call).factSet c.agentId).Holds f ∨
      ((cache.recordSuccess call).factSet c.agentId).full f.trustClass c.authority = true := by
    intro c hc f hf
    rcases List.mem_append.mp hc with hc | hc
    · have hgrown := grown_factSet_recordSuccess cache call c.agentId
      rcases h.held_or_full c hc f hf with hf | hf
      · exact .inl (hgrown.holds f hf)
      · exact .inr (hgrown.2 _ _ hf)
    · obtain rfl := List.mem_singleton.mp hc
      rw [hself]
      exact FactSet.admitFacts_holds_or_full _ _ _ f hf
  refine ⟨?_, hheld, ?_, markers_length_recordSuccess cache call h.bounded⟩
  · intro agentId stored hstored
    rw [factSet_recordSuccess] at hstored
    split at hstored
    · next hid =>
      rcases FactSet.mem_admitFacts _ _ _ stored hstored with hold | ⟨horigin, hrev⟩
      · obtain ⟨c, hc, hcall⟩ := h.recorded call.agentId stored hold
        rw [hid] at hcall
        exact ⟨c, List.mem_append_left _ hc, hcall⟩
      · exact ⟨call, by simp, hid, horigin.symm, hrev⟩
    · obtain ⟨c, hc, hcall⟩ := h.recorded agentId stored hstored
      exact ⟨c, List.mem_append_left _ hc, hcall⟩
  · intro c hc hkey f hf
    rcases mem_markers_recordSuccess cache call _ hkey with ⟨hne, hold⟩ | ⟨heq, hfull⟩
    · -- the marker is an older one, so `c` is one of the calls it already answered for
      rcases List.mem_append.mp hc with hc | hc
      · exact (grown_factSet_recordSuccess cache call c.agentId).holds f (h.marked c hc hold f hf)
      · obtain rfl := List.mem_singleton.mp hc
        exact absurd rfl hne
    · -- minted by this call: its slot still had room after every earlier refusal would have filled it
      obtain ⟨hid, hauth, hcls⟩ : c.agentId = call.agentId ∧ c.authority = call.authority ∧
          classKey c.cls = classKey call.cls := by simpa [markerKey] using heq
      rcases hheld c hc f hf with hf | hcontra
      · exact hf
      · rw [hid, hself, hauth, hclass c hc f hf, classKey_inj _ _ hcls, hfull] at hcontra
        cases hcontra

theorem tracks_run (calls : List RecordSuccess)
    (hclass : ∀ call ∈ calls, ∀ f ∈ call.facts, f.trustClass = call.cls) : Tracks calls (run calls) := by
  induction calls using List.reverseRecOn with
  | nil => exact tracks_new
  | append_singleton calls call ih =>
    have htracks := ih (fun c hc => hclass c (List.mem_append_left _ hc))
    rw [run, List.foldl_append]
    exact htracks.recordSuccess call hclass

theorem grown_run_append (before after : List RecordSuccess) (agentId : String) :
    ((run before).factSet agentId).Grown ((run (before ++ after)).factSet agentId) := by
  induction after using List.reverseRecOn with
  | nil =>
    rw [List.append_nil]
    exact .refl _
  | append_singleton after call ih =>
    have hrun : run (before ++ (after ++ [call])) = (run (before ++ after)).recordSuccess call := by
      rw [run, ← List.append_assoc, List.foldl_append]
      rfl
    rw [hrun]
    exact ih.trans (grown_factSet_recordSuccess _ call agentId)

theorem mem_factsFor (cache : RevocationCache) (agentId : String) (attested : Bool) (vantage : Option String)
    (f : KeyRevocation) (origin : String) :
    (f, origin) ∈ cache.factsFor agentId attested vantage ↔ ⟨f, origin⟩ ∈ (cache.factSet agentId).facts ∧
      (f.trustClass = .registryAttested → attested = true ∧ vantage = some origin) := by
  rw [factsFor_eq, List.mem_map]
  constructor
  · rintro ⟨⟨rev, o⟩, hstored, heq⟩
    obtain ⟨rfl, rfl⟩ := Prod.mk.inj heq
    rw [List.mem_filter] at hstored
    refine ⟨hstored.1, fun hcls => ?_⟩
    have hkeep := hstored.2
    rw [hcls] at hkeep
    cases vantage with
    | none => simp at hkeep
    | some v => simpa using hkeep
  · rintro ⟨hstored, hkeep⟩
    refine ⟨⟨f, origin⟩, List.mem_filter.mpr ⟨hstored, ?_⟩, rfl⟩
    cases hcls : f.trustClass with
    | producerSigned => rfl
    | registryAttested =>
      obtain ⟨rfl, rfl⟩ := hkeep hcls
      simp

theorem mem_markers_of_freshMarker (cache : RevocationCache) (now : ℕ) (authority agentId : String)
    (cls : RevocationTrustClass) (freshness : ℕ) (observed : ℤ)
    (h : cache.freshMarker now authority agentId cls freshness = some observed) :
    (agentId, authority, classKey cls) ∈ cache.markers := by
  rw [freshMarker] at h
  split at h
  · cases h
  · rw [← AList.lookup_isSome]
    cases hlook : cache.markers.lookup (agentId, authority, classKey cls) with
    | none =>
      rw [hlook] at h
      cases h
    | some m => rfl

theorem Tracks.held_of_freshMarker {calls : List RecordSuccess} {cache : RevocationCache}
    (h : Tracks calls cache) (hdistinct : ∀ c ∈ calls, ∀ d ∈ calls, ∀ f ∈ c.facts, f ∈ d.facts →
      f.trustClass = .registryAttested → c.authority = d.authority) (call : RecordSuccess)
        (hcall : call ∈ calls) (now freshness : ℕ) (observed : ℤ)
    (hfresh : cache.freshMarker now call.authority call.agentId call.cls freshness = some observed)
    (f : KeyRevocation) (hf : f ∈ call.facts) :
    ∃ origin, (f, origin) ∈ cache.factsFor call.agentId true (some call.authority) := by
  have hkey := mem_markers_of_freshMarker cache now _ _ _ freshness observed hfresh
  obtain ⟨stored, hstored, rfl⟩ := h.marked call hcall hkey f hf
  refine ⟨stored.origin, (mem_factsFor _ _ _ _ _ _).mpr ⟨hstored, fun hcls => ⟨rfl, ?_⟩⟩⟩
  obtain ⟨c, hc, -, horigin, hrev⟩ := h.recorded call.agentId stored hstored
  rw [← horigin, hdistinct call hcall c hc stored.rev hf hrev hcls]

theorem run_suppresses_only_held (calls : List RecordSuccess)
    (hclass : ∀ call ∈ calls, ∀ f ∈ call.facts, f.trustClass = call.cls)
    (hdistinct : ∀ c ∈ calls, ∀ d ∈ calls, ∀ f ∈ c.facts, f ∈ d.facts → f.trustClass = .registryAttested →
      c.authority = d.authority) :
    (∀ before after, calls = before ++ after → ∀ agentId,
      ((run before).factSet agentId).facts <+: ((run calls).factSet agentId).facts ∧
      ∀ attested vantage, (run before).factsFor agentId attested vantage <+:
        (run calls).factsFor agentId attested vantage) ∧
    (∀ agentId authority, ∀ p ∈ (run calls).factsFor agentId true (some authority),
      p.1.trustClass = .registryAttested →
        ∃ call ∈ calls, call.authority = authority ∧ call.agentId = agentId ∧ p.1 ∈ call.facts) ∧
    (∀ agentId authority, ∀ stored ∈ ((run calls).factSet agentId).facts,
      stored.rev.trustClass = .producerSigned →
        (stored.rev, stored.origin) ∈ (run calls).factsFor agentId true (some authority)) ∧
    (run calls).markers.entries.length ≤ maxMarkers ∧
    (∀ now authority agentId cls freshness,
      ((run calls).freshMarker now authority agentId cls freshness).isSome →
        ∀ call ∈ calls, call.authority = authority → call.agentId = agentId → call.cls = cls →
          ∀ f ∈ call.facts, ∃ origin, (f, origin) ∈ (run calls).factsFor agentId true (some authority)) := by
  have htracks := tracks_run calls hclass
  refine ⟨?_, ?_, ?_, htracks.bounded, ?_⟩
  · rintro before after rfl agentId
    have hgrown := grown_run_append before after agentId
    exact ⟨hgrown.1, fun attested vantage => factsFor_grows _ _ agentId attested vantage hgrown⟩
  · rintro agentId authority ⟨f, origin⟩ hp hcls
    obtain ⟨hstored, hkeep⟩ := (mem_factsFor _ _ _ _ _ _).mp hp
    obtain ⟨-, hvantage⟩ := hkeep hcls
    obtain ⟨call, hcall, hid, hauth, hrev⟩ := htracks.recorded agentId _ hstored
    exact ⟨call, hcall, hauth.trans (Option.some.inj hvantage).symm, hid, hrev⟩
  · intro agentId authority stored hstored hcls
    refine (mem_factsFor _ _ _ _ _ _).mpr ⟨hstored, fun hattested => ?_⟩
    rw [hcls] at hattested
    cases hattested
  · rintro now _ _ _ freshness hsome call hcall rfl rfl rfl f hf
    obtain ⟨observed, hfresh⟩ := Option.isSome_iff_exists.mp hsome
    exact htracks.held_of_freshMarker hdistinct call hcall now freshness observed hfresh f hf

theorem epoch_lower : -8334601228800000000000 ≤ (0 : ℤ) := by decide

theorem epoch_upper : (0 : ℤ) ≤ 8210266876799999999999 := by decide

def sampleRevocation (publisher controller : AgentDid) (cls : RevocationTrustClass) : KeyRevocation :=
  ⟨"sha256:00", ⟨0, epoch_lower, epoch_upper⟩, none, none, controller, publisher, cls, none⟩

def sampleCall (authority : String) (cls : RevocationTrustClass) (fact : KeyRevocation) (at_ : ℕ) :
    RecordSuccess :=
  ⟨authority, "did:web:p", cls, [fact], ⟨at_, at_⟩, ⟨id, fun _ => .rfl⟩⟩

def sampleCalls : List RecordSuccess :=
  [sampleCall "a" .registryAttested (sampleRevocation "did:web:a" "did:web:p" .registryAttested) 1,
    sampleCall "b" .registryAttested (sampleRevocation "did:web:b" "did:web:p" .registryAttested) 2,
    sampleCall "b" .producerSigned (sampleRevocation "did:web:p" "did:web:p" .producerSigned) 3]

theorem sampleCalls_suppress_held :
    ((run sampleCalls).freshMarker 5 "a" "did:web:p" .registryAttested 300).isSome = true ∧
    ∃ origin, (sampleRevocation "did:web:a" "did:web:p" .registryAttested, origin) ∈
      (run sampleCalls).factsFor "did:web:p" true (some "a") := by
  have hfresh : ((run sampleCalls).freshMarker 5 "a" "did:web:p" .registryAttested 300).isSome = true := by
    decide +kernel
  refine ⟨hfresh, ?_⟩
  have hall := run_suppresses_only_held sampleCalls (by decide) (by decide)
  exact hall.2.2.2.2 5 "a" "did:web:p" .registryAttested 300 hfresh _ List.mem_cons_self rfl rfl rfl _
    List.mem_cons_self

end RevocationCache

end Acdp.Client
