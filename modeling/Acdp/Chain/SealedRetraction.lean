import Acdp.Chain.Sealed
import Mathlib.Data.List.TakeWhile

namespace Acdp.Chain

open Acdp.Types

theorem length_takeWhile_append_replicate {α : Type} (l : List (Option α)) (k : ℕ) :
    ((l ++ List.replicate k none).takeWhile Option.isSome).length = (l.takeWhile Option.isSome).length := by
  induction l with
  | nil => cases k <;> rfl
  | cons a l ih =>
    cases a with
    | none => rfl
    | some a => simp [ih]

theorem isSome_of_lt_length_takeWhile {α : Type} (l : List (Option α)) (j : ℕ)
    (hj : j < (l.takeWhile Option.isSome).length) : ∃ a, l[j]? = some (some a) := by
  have hmem : (l.takeWhile Option.isSome)[j] ∈ l.takeWhile Option.isSome := List.getElem_mem hj
  obtain ⟨a, ha⟩ := Option.isSome_iff_exists.mp (List.mem_takeWhile_imp hmem)
  refine ⟨a, ?_⟩
  obtain ⟨rest, hrest⟩ := List.takeWhile_prefix (l := l) Option.isSome
  rw [← hrest, List.getElem?_append_left hj, List.getElem?_eq_getElem hj, ha]

namespace Engine

theorem retractionStage_append (e : Engine) (events events' : List LifecycleEvent)
    (accepted accepted' : List (Option DateTime)) (admitted : List (Option Basis)) (k : ℕ) (pass : PassAt)
    (hlen : admitted.length ≤ events.length) (hevents : events <+: events')
    (haccepted : ∀ (j : ℕ) (b : Basis), admitted[j]? = some (some b) → accepted'[j]? = accepted[j]?) :
    e.retractionStage events' accepted' (admitted ++ List.replicate k none) pass =
      e.retractionStage events accepted admitted pass := by
  have hn := length_takeWhile_append_replicate admitted k
  have hle : (admitted.takeWhile Option.isSome).length ≤ admitted.length :=
    (List.takeWhile_prefix _).length_le
  obtain ⟨rest, rfl⟩ := hevents
  have hdrop : ((admitted ++ List.replicate k none).drop (admitted.takeWhile Option.isSome).length).any
      Option.isSome = (admitted.drop (admitted.takeWhile Option.isSome).length).any Option.isSome := by
    rw [List.drop_append_of_le_length hle, List.any_append]
    simp
  have htake : (admitted ++ List.replicate k none).take (admitted.takeWhile Option.isSome).length =
      admitted.take (admitted.takeWhile Option.isSome).length := List.take_append_of_le_length hle
  have hevents : (events ++ rest).take (admitted.takeWhile Option.isSome).length =
      events.take (admitted.takeWhile Option.isSome).length := List.take_append_of_le_length (hle.trans hlen)
  simp only [retractionStage, hn, hdrop, htake, hevents]
  split_ifs with hgap hretracted hzero
  all_goals try rfl
  all_goals
    obtain ⟨b, hb⟩ := isSome_of_lt_length_takeWhile admitted
      ((admitted.takeWhile Option.isSome).length - 1) (by omega)
    rw [haccepted _ b hb]

theorem zip_accepted (e : Engine) (pc : ParsedContext) (pass : PassAt) :
    pc.events.zip (e.accepted pc pass) = pc.events.zipIdx.map (fun p => (p.1, e.acceptedAt pc pass p)) := by
  have hfst := List.zipIdx_map_fst 0 pc.events
  rw [accepted]
  nth_rewrite 1 [← hfst]
  exact List.zip_map'

theorem filter_admits_accepted (e : Engine) (pc : ParsedContext) (t : DateTime) :
    ((e.accepted pc (.asOf t)).filterMap id).filter (PassAt.asOf t).admits =
      pc.events.zipIdx.filterMap (fun p => (e.acceptedAt pc (.asOf t) p).filter (· ≤ t)) := by
  rw [accepted, List.filterMap_map, List.filter_filterMap]
  rfl

theorem admittedBasis_filter (e : Engine) (hreq : e.requireAttestedEvents = true) (body : Body) (t : DateTime)
    (event : LifecycleEvent × Json) (a : Option DateTime) :
    e.admittedBasis body (.asOf t) (event, a) =
      e.admittedBasis body (.asOf t) (event, a.filter (· ≤ t)) := by
  cases a with
  | none => rfl
  | some a =>
    by_cases ha : a ≤ t
    · simp [Option.filter, ha]
    · simp [Option.filter, ha, admittedBasis, hreq]

theorem admittedBasis_none (e : Engine) (hreq : e.requireAttestedEvents = true) (body : Body) (t : DateTime)
    (event : LifecycleEvent × Json) : e.admittedBasis body (.asOf t) (event, none) = none := by
  simp [admittedBasis, hreq]

theorem le_of_admittedBasis (e : Engine) (hreq : e.requireAttestedEvents = true) (body : Body) (t : DateTime)
    (event : LifecycleEvent × Json) (a : Option DateTime) (b : Basis)
    (h : e.admittedBasis body (.asOf t) (event, a) = some b) : ∃ s, a = some s ∧ s ≤ t := by
  cases a with
  | none =>
    rw [e.admittedBasis_none hreq] at h
    cases h
  | some a =>
    simp only [admittedBasis] at h
    split_ifs at h with ha
    exact ⟨a, rfl, ha.1⟩

end Engine

namespace Engine.Sealed

variable {t : DateTime} {e e' : Engine} {pc pc' : ParsedContext}

theorem eventStatus (h : Sealed t e e') (body : Body) (event : LifecycleEvent) (raw : Json) :
    e'.eventStatus body event raw (.asOf t) = e.eventStatus body event raw (.asOf t) := by
  simp only [Engine.eventStatus, PassAt.t, h.env, h.check]

theorem eventReceiptVerifies (h : Sealed t e e') (body : Body) (rawEvent : Json) (j : ℕ)
    (r : EventReceipt × Json) :
    e'.eventReceiptVerifies body rawEvent j (.asOf t) r = e.eventReceiptVerifies body rawEvent j
      (.asOf t) r := by
  simp only [Engine.eventReceiptVerifies, PassAt.t, h.env, h.check]

theorem acceptedAt_of_lt (h : Sealed t e e') (hc : ContextSealed e.requireAttestedEvents t pc pc')
    (p : (LifecycleEvent × Json) × ℕ) (hp : p.2 < pc.eventReceipts.length) :
    e'.acceptedAt pc' (.asOf t) p = e.acceptedAt pc (.asOf t) p := by
  obtain ⟨rest, hrest⟩ := hc.eventReceipts
  simp only [Engine.acceptedAt, ← hrest, List.getElem?_append_left hp, hc.body, h.eventReceiptVerifies]

theorem exists_receipt_of_acceptedAt (p : (LifecycleEvent × Json) × ℕ) (a : DateTime)
    (ha : e.acceptedAt pc (.asOf t) p = some a) : ∃ r, pc.eventReceipts[p.2]? = some r ∧
      r.1.acceptedAt = a := by
  rw [Engine.acceptedAt, Option.bind_eq_some_iff] at ha
  obtain ⟨r, hr, ha⟩ := ha
  split_ifs at ha
  exact ⟨r, hr, Option.some.inj ha⟩

theorem lt_acceptedAt (hc : ContextSealed e.requireAttestedEvents t pc pc')
    (p : (LifecycleEvent × Json) × ℕ) (hp : pc.eventReceipts.length ≤ p.2) (a : DateTime)
    (ha : e'.acceptedAt pc' (.asOf t) p = some a) : t < a := by
  obtain ⟨r, hr, rfl⟩ := exists_receipt_of_acceptedAt p a ha
  refine hc.late r (List.mem_of_getElem? (i := p.2 - pc.eventReceipts.length) ?_)
  rw [List.getElem?_drop, Nat.add_sub_cancel' hp, hr]

theorem acceptedAt_of_le (hp : pc.eventReceipts.length ≤ p.2) :
    e.acceptedAt pc (.asOf t) p = none := by
  rw [Engine.acceptedAt, List.getElem?_eq_none hp, Option.bind_none]

theorem acceptedAt_filter (h : Sealed t e e') (hc : ContextSealed e.requireAttestedEvents t pc pc')
    (p : (LifecycleEvent × Json) × ℕ) :
    (e'.acceptedAt pc' (.asOf t) p).filter (· ≤ t) = (e.acceptedAt pc (.asOf t) p).filter (· ≤ t) := by
  rcases Nat.lt_or_ge p.2 pc.eventReceipts.length with hp | hp
  · rw [h.acceptedAt_of_lt hc p hp]
  · rw [acceptedAt_of_le hp, Option.filter_none, Option.filter_eq_none_iff]
    intro a ha
    simpa using lt_acceptedAt hc p hp a ha

theorem admittedBasis (h : Sealed t e e') (body : Body) (p : (LifecycleEvent × Json) × Option DateTime) :
    e'.admittedBasis body (.asOf t) p = e.admittedBasis body (.asOf t) p := by
  simp only [Engine.admittedBasis, h.eventStatus, h.requireAttestedEvents]

theorem retraction_of_eq (h : Sealed t e e') (hc : ContextSealed e.requireAttestedEvents t pc pc')
    (hevents : pc'.events = pc.events) (hreceipts : pc'.eventReceipts = pc.eventReceipts) :
    e'.retraction pc' (.asOf t) = e.retraction pc (.asOf t) := by
  have haccepted : e'.accepted pc' (.asOf t) = e.accepted pc (.asOf t) := by
    rw [Engine.accepted, Engine.accepted, hevents]
    refine List.map_congr_left (fun p _ => ?_)
    simp only [Engine.acceptedAt, hreceipts, hc.body, h.eventReceiptVerifies]
  have hadmitted : e'.admittedBasis pc.body (.asOf t) = e.admittedBasis pc.body (.asOf t) :=
    funext (h.admittedBasis pc.body)
  simp only [Engine.retraction, Engine.retractionStage, haccepted, hevents, hc.body, h.env, hadmitted]

theorem admittedBasis_acceptedAt (h : Sealed t e e') (hc : ContextSealed e.requireAttestedEvents t pc pc')
    (hreq : e.requireAttestedEvents = true) (p : (LifecycleEvent × Json) × ℕ) :
    e'.admittedBasis pc'.body (.asOf t) (p.1, e'.acceptedAt pc' (.asOf t) p) =
      e.admittedBasis pc.body (.asOf t) (p.1, e.acceptedAt pc (.asOf t) p) := by
  rw [h.admittedBasis, hc.body, e.admittedBasis_filter hreq, h.acceptedAt_filter hc,
    ← e.admittedBasis_filter hreq]

theorem acceptedAt_appended (hc : ContextSealed e.requireAttestedEvents t pc pc')
    (rest : List (LifecycleEvent × Json)) (hrest : pc.events ++ rest = pc'.events)
    (p : (LifecycleEvent × Json) × ℕ) (hp : p ∈ rest.zipIdx pc.events.length) :
    (e.acceptedAt pc (.asOf t) p).filter (· ≤ t) = none := by
  rw [Option.filter_eq_none_iff]
  intro a ha
  obtain ⟨r, hr, rfl⟩ := exists_receipt_of_acceptedAt p a ha
  obtain ⟨hle, hlt, -⟩ := List.mem_zipIdx (x := p.1) (i := p.2) (by simpa using hp)
  have hlate : t < r.1.acceptedAt := by
    apply hc.taken p.2 r hle _ hr
    rw [← hrest, List.length_append]
    omega
  simpa using hlate

theorem filter_accepted (h : Sealed t e e') (hc : ContextSealed e.requireAttestedEvents t pc pc') :
    ((e'.accepted pc' (.asOf t)).filterMap id).filter (PassAt.asOf t).admits =
      ((e.accepted pc (.asOf t)).filterMap id).filter (PassAt.asOf t).admits := by
  obtain ⟨rest, hrest⟩ := hc.events
  have hfilter : (fun p => (e'.acceptedAt pc' (.asOf t) p).filter (· ≤ t)) =
      (fun p => (e.acceptedAt pc (.asOf t) p).filter (· ≤ t)) := funext (h.acceptedAt_filter hc)
  have hnew : (rest.zipIdx pc.events.length).filterMap (fun p =>
      (e.acceptedAt pc (.asOf t) p).filter (· ≤ t)) = [] := by
    rw [List.filterMap_eq_nil_iff]
    intro p hp
    exact acceptedAt_appended hc rest hrest p hp
  rw [filter_admits_accepted, filter_admits_accepted, hfilter, ← hrest, List.zipIdx_append,
    List.filterMap_append, Nat.zero_add, hnew, List.append_nil]

theorem admitted_append (h : Sealed t e e') (hc : ContextSealed e.requireAttestedEvents t pc pc')
    (hreq : e.requireAttestedEvents = true) :
    ∃ k, (pc'.events.zip (e'.accepted pc' (.asOf t))).map (e'.admittedBasis pc'.body (.asOf t)) =
      (pc.events.zip (e.accepted pc (.asOf t))).map (e.admittedBasis pc.body (.asOf t)) ++
        List.replicate k none := by
  obtain ⟨rest, hrest⟩ := hc.events
  refine ⟨rest.length, ?_⟩
  have hnew : (rest.zipIdx pc.events.length).map (fun p =>
      e.admittedBasis pc.body (.asOf t) (p.1, e.acceptedAt pc (.asOf t) p)) =
        List.replicate rest.length none := by
    rw [List.eq_replicate_iff]
    refine ⟨by simp, ?_⟩
    intro b hb
    obtain ⟨p, hp, rfl⟩ := List.mem_map.mp hb
    rw [e.admittedBasis_filter hreq, acceptedAt_appended hc rest hrest p hp, e.admittedBasis_none hreq]
  rw [zip_accepted, zip_accepted, List.map_map, List.map_map, ← hrest, List.zipIdx_append, List.map_append,
    Nat.zero_add]
  simp only [Function.comp_def, h.admittedBasis_acceptedAt hc hreq, hnew]

theorem accepted_of_admitted (h : Sealed t e e') (hc : ContextSealed e.requireAttestedEvents t pc pc')
    (hreq : e.requireAttestedEvents = true) (j : ℕ) (b : Basis)
    (hj : ((pc.events.zip (e.accepted pc (.asOf t))).map (e.admittedBasis pc.body (.asOf t)))[j]? =
      some (some b)) :
    (e'.accepted pc' (.asOf t))[j]? = (e.accepted pc (.asOf t))[j]? := by
  rw [zip_accepted, List.map_map, List.getElem?_map, Option.map_eq_some_iff] at hj
  obtain ⟨p, hp, hb⟩ := hj
  obtain ⟨s, hs, -⟩ := e.le_of_admittedBasis hreq _ _ _ _ _ hb
  have hindex : p.2 < pc.eventReceipts.length := by
    by_contra hle
    rw [acceptedAt_of_le (by omega)] at hs
    cases hs
  have hp' : pc'.events.zipIdx[j]? = some p := by
    obtain ⟨rest, hrest⟩ := hc.events
    rw [← hrest, List.zipIdx_append, List.getElem?_append_left, hp]
    exact (List.getElem?_eq_some_iff.mp hp).1
  rw [Engine.accepted, Engine.accepted, List.getElem?_map, List.getElem?_map, hp, hp', Option.map_some,
    Option.map_some, h.acceptedAt_of_lt hc p hindex]

theorem retraction (h : Sealed t e e') (hc : ContextSealed e.requireAttestedEvents t pc pc') :
    (e'.retraction pc' (.asOf t)).1 = (e.retraction pc (.asOf t)).1 := by
  rcases hc.attested with ⟨hevents, hreceipts⟩ | hreq
  · rw [h.retraction_of_eq hc hevents hreceipts]
  · obtain ⟨k, hk⟩ := h.admitted_append hc hreq
    obtain ⟨rest, hrest⟩ := hc.events
    have hstage := e.retractionStage_append (pc.events.map Prod.fst) (pc'.events.map Prod.fst)
      (e.accepted pc (.asOf t)) (e'.accepted pc' (.asOf t)) _ k (.asOf t) (by simp)
      ⟨rest.map Prod.fst, by rw [← hrest, List.map_append]⟩ (h.accepted_of_admitted hc hreq)
    simp only [Engine.retraction, h.filter_accepted hc]
    split_ifs
    · rfl
    · rw [hk, ← hstage]
      simp only [Engine.retractionStage, h.env]

end Engine.Sealed

end Acdp.Chain
