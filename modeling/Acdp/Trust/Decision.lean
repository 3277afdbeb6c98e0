import Acdp.Foundation.Selection
import Acdp.Trust.List

namespace Acdp.Trust

open Acdp.Types
open Acdp.Foundation.Selection

variable (b : TrustSubject) (t : DateTime) (receipt : Option ReceiptInput)
    (capabilities : Option (List String))

theorem outcome_le_listInvalid (o : TrustOutcome) : o ≤ .listInvalid := by
  cases o <;> decide

theorem trusted_le_outcome (o : TrustOutcome) : .trusted ≤ o := by
  cases o <;> decide

theorem foldl_better (candidates : List NodeTrust) :
    candidates.foldl better none = candidates.argmin (·.outcome) := by
  rw [List.argmin]
  congr 1
  funext best candidate
  cases best with
  | none => rfl
  | some n =>
    by_cases hlt : candidate.outcome < n.outcome
    · simp [better, List.argAux, hlt]
    · simp [better, List.argAux, hlt]

def entryNode (pin : IssuerPin) (p : TrustListEntry × ℕ) : Option NodeTrust :=
  (entryOutcome p.1 b b.origin receipt capabilities t).map
    (fun o => node b capabilities o.1 o.2 (some (pin, p.2)))

theorem foldl_listStep (pin : IssuerPin) (entries : List (TrustListEntry × ℕ)) :
    entries.foldl (listStep b t receipt capabilities pin) none =
      (entries.filterMap (entryNode b t receipt capabilities pin)).argmin (·.outcome) := by
  rw [← foldl_better, List.foldl_filterMap]
  congr 1
  funext best p
  rw [listStep, entryNode]
  cases entryOutcome p.1 b b.origin receipt capabilities t <;> rfl

/-- What a pin contributes: the best of its matching entries, or its own standing. -/
def pinOutcome (state : PinState) : TrustOutcome :=
  match state.status, state.version with
  | .used, some v => (v.list.entries.filterMap (fun e =>
      (entryOutcome e b b.origin receipt capabilities t).map Prod.fst)).min?.getD .untrustedRegistry
  | .expired, _ => .expired
  | _, _ => .listInvalid

theorem candidate_outcome (state : PinState) :
    (candidate b t receipt capabilities state).outcome = pinOutcome b t receipt capabilities state := by
  cases hstatus : state.status with
  | invalid => simp [candidate, pinOutcome, hstatus, node]
  | expired => simp [candidate, pinOutcome, hstatus, node]
  | used =>
    cases hversion : state.version with
    | none => simp [candidate, pinOutcome, hstatus, hversion, node]
    | some v =>
      have houtcomes : (v.list.entries.zipIdx.filterMap (entryNode b t receipt capabilities state.pin)).map
          (·.outcome) =
            v.list.entries.filterMap (fun e => (entryOutcome e b b.origin receipt capabilities t).map
            Prod.fst) := by
        have hzip : v.list.entries = v.list.entries.zipIdx.map Prod.fst := (List.zipIdx_map_fst 0 _).symm
        rw [List.map_filterMap, hzip, List.filterMap_map, ← hzip]
        congr 1
        funext p
        simp only [Function.comp_apply, entryNode, Option.map_map]
        rfl
      have hbest := map_argmin (·.outcome)
        (v.list.entries.zipIdx.filterMap (entryNode b t receipt capabilities state.pin))
      rw [houtcomes] at hbest
      simp only [candidate, pinOutcome, hstatus, hversion]
      rw [foldl_listStep, ← hbest]
      cases (v.list.entries.zipIdx.filterMap (entryNode b t receipt capabilities state.pin)).argmin
        (·.outcome) <;> rfl

def ordered (pins : List PinState) : List PinState :=
  pins.insertionSort (fun p q => p.pin.series ≤ q.pin.series)

theorem evaluate_eq (pins : List PinState) (hidentity : b.authority = b.origin) :
    evaluate b t receipt capabilities pins =
      (((ordered pins).map (candidate b t receipt capabilities)).argmin (·.outcome)).getD
        (node b capabilities .listInvalid (some .noValidVersion) none) := by
  rw [evaluate, if_neg (not_not.mpr hidentity), ← foldl_better, List.foldl_map]
  rfl

theorem evaluate_outcome (pins : List PinState) (hidentity : b.authority = b.origin) :
    (evaluate b t receipt capabilities pins).outcome =
      (pins.map (pinOutcome b t receipt capabilities)).min?.getD .listInvalid := by
  have hmem (o : TrustOutcome) :
    o ∈ ((ordered pins).map (candidate b t receipt capabilities)).map (·.outcome) ↔
      o ∈ pins.map (pinOutcome b t receipt capabilities) := by
    rw [List.map_map, List.mem_map, List.mem_map]
    simp only [ordered, List.mem_insertionSort, Function.comp_apply, candidate_outcome]
  have hbest := map_argmin (·.outcome) ((ordered pins).map (candidate b t receipt capabilities))
  rw [min?_congr _ _ hmem] at hbest
  rw [evaluate_eq b t receipt capabilities pins hidentity, ← hbest]
  cases ((ordered pins).map (candidate b t receipt capabilities)).argmin (·.outcome) <;> rfl

theorem evaluate_mismatch (pins : List PinState) (hidentity : b.authority ≠ b.origin) :
    evaluate b t receipt capabilities pins = node b capabilities .untrustedRegistry
      (some .originMismatch) none :=
  if_pos hidentity

theorem pinOutcome_eq_trusted_iff (state : PinState) :
    pinOutcome b t receipt capabilities state = .trusted ↔
      state.status = .used ∧ ∃ v, state.version = some v ∧ ∃ e ∈ v.list.entries, ∃ reason,
        entryOutcome e b b.origin receipt capabilities t = some (.trusted, reason) := by
  cases hstatus : state.status with
  | invalid => simp [pinOutcome, hstatus]
  | expired => simp [pinOutcome, hstatus]
  | used =>
    cases hversion : state.version with
    | none => simp [pinOutcome, hstatus, hversion]
    | some v =>
      simp only [pinOutcome, hstatus, hversion, true_and, Option.some.injEq, exists_eq_left']
      rw [min?_getD_eq_iff TrustOutcome.untrustedRegistry TrustOutcome.trusted (by decide) trusted_le_outcome,
        List.mem_filterMap]
      refine exists_congr fun e => and_congr_right fun _ => ?_
      rw [Option.map_eq_some_iff]
      constructor
      · rintro ⟨⟨o, reason⟩, heq, rfl⟩
        exact ⟨reason, heq⟩
      · rintro ⟨reason, heq⟩
        exact ⟨_, heq, rfl⟩

theorem ordered_eq_of_perm (pins pins' : List PinState) (h : pins'.Perm pins)
    (hdistinct : (pins.map (·.pin.series)).Nodup) : ordered pins' = ordered pins := by
  have hsorted (l : List PinState) : (ordered l).Pairwise (fun p q => p.pin.series ≤ q.pin.series) :=
    List.pairwise_insertionSort _ l
  have hperm : (ordered pins').Perm (ordered pins) :=
    (List.perm_insertionSort _ pins').trans (h.trans (List.perm_insertionSort _ pins).symm)
  refine hperm.eq_of_pairwise (fun p q hp hq hpq hqp => ?_) (hsorted pins') (hsorted pins)
  have hp : p ∈ pins := h.mem_iff.mp ((List.mem_insertionSort _).mp hp)
  have hq : q ∈ pins := (List.mem_insertionSort _).mp hq
  exact List.inj_on_of_nodup_map hdistinct hp hq (hpq.antisymm hqp)

/-- Trust decisions are exact, and no order of the pins matters. -/
theorem evaluate_exact (pins : List PinState) :
    ((evaluate b t receipt capabilities pins).outcome = .trusted ↔
      b.authority = b.origin ∧ ∃ state ∈ pins, state.status = .used ∧ ∃ v, state.version = some v ∧
        ∃ e ∈ v.list.entries, ∃ reason, entryOutcome e b b.origin receipt capabilities t =
          some (.trusted, reason)) ∧
    (b.authority = b.origin → (evaluate b t receipt capabilities pins).outcome =
      (pins.map (pinOutcome b t receipt capabilities)).min?.getD .listInvalid) ∧
    (b.authority ≠ b.origin → (evaluate b t receipt capabilities pins).outcome = .untrustedRegistry ∧
      (evaluate b t receipt capabilities pins).reason = some .originMismatch) ∧
    (∀ pins', pins'.Perm pins →
      (evaluate b t receipt capabilities pins').outcome = (evaluate b t receipt capabilities pins).outcome) ∧
    (∀ pins', pins ⊆ pins' →
      (evaluate b t receipt capabilities pins').outcome ≤ (evaluate b t receipt capabilities pins).outcome) ∧
    ((pins.map (·.pin.series)).Nodup → ∀ pins', pins'.Perm pins →
      evaluate b t receipt capabilities pins' = evaluate b t receipt capabilities pins) := by
  by_cases hidentity : b.authority = b.origin
  · have houtcome := fun pins => evaluate_outcome b t receipt capabilities pins hidentity
    refine ⟨?_, fun _ => houtcome pins, fun hne => absurd hidentity hne, fun pins' hperm => ?_,
      fun pins' hsub => ?_,
      fun hdistinct pins' hperm => ?_⟩
    · rw [houtcome, min?_getD_eq_iff TrustOutcome.listInvalid TrustOutcome.trusted (by decide)
        trusted_le_outcome, List.mem_map, and_iff_right hidentity]
      simp only [pinOutcome_eq_trusted_iff]
    · have hmem (o : TrustOutcome) := (hperm.map (pinOutcome b t receipt capabilities)).mem_iff (a := o)
      rw [houtcome, houtcome, min?_congr _ _ hmem]
    · rw [houtcome, houtcome]
      exact min?_getD_le TrustOutcome.listInvalid outcome_le_listInvalid _ _ (List.map_subset _ hsub)
    · rw [evaluate_eq b t receipt capabilities pins' hidentity,
        evaluate_eq b t receipt capabilities pins hidentity, ordered_eq_of_perm pins pins' hperm hdistinct]
  · have hsame := fun pins => evaluate_mismatch b t receipt capabilities pins hidentity
    refine ⟨?_, fun heq => absurd heq hidentity, fun _ => by rw [hsame]; exact ⟨rfl, rfl⟩, fun pins' _ => ?_,
      fun pins' _ => ?_, fun _ pins' _ => ?_⟩
    · rw [hsame]
      exact iff_of_false (by simp [node]) (fun h => hidentity h.1)
    · rw [hsame, hsame]
    · rw [hsame, hsame]
    · rw [hsame, hsame]

theorem split_identity_untrusted :
    let b : TrustSubject := ⟨"acdp://a.example/1", "b.example", "did:web:p.example", "analysis"⟩
    let t : DateTime := ⟨0, by decide, by decide⟩
    let pins : List PinState := [⟨⟨"did:web:issuer.example", "main", none⟩, .expired, none, some .listWindow⟩]
    (evaluate b t none none pins).outcome ≠ (pins.map (pinOutcome b t none none)).min?.getD .listInvalid := by
  intro b t pins
  rw [evaluate_mismatch b t none none pins (by decide)]
  decide

end Acdp.Trust
