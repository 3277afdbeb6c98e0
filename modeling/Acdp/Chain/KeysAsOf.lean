import Acdp.Chain.Keys

namespace Acdp.Chain.BundleKeys

open Acdp.Types
open Std (ExtTreeMap)

def pinnedFor (env : Env) (did : String) (p : PinnedSnapshot × ℕ) : Option Candidate :=
  if p.1.did = did then
    (parseTs env p.1.instant).map (fun time => ⟨time, true, p.2, evaluate env p.1.did p.1.document⟩)
  else none

theorem getD_pin (env : Env) (byDid : ExtTreeMap String (List Candidate)) (p : PinnedSnapshot × ℕ)
    (did : String) :
    (pin env byDid p).getD did [] = byDid.getD did [] ++ (pinnedFor env did p).toList := by
  cases hts : parseTs env p.1.instant with
  | none => simp [pin, pinnedFor, hts]
  | some time =>
    simp only [pin, pinnedFor, hts, ExtTreeMap.getD_insert, Std.LawfulEqCmp.compare_eq_iff_eq]
    split_ifs with h
    · subst h
      rfl
    · simp

theorem getD_foldl_pin (env : Env) (l : List (PinnedSnapshot × ℕ))
    (byDid : ExtTreeMap String (List Candidate)) (did : String) :
    (l.foldl (pin env) byDid).getD did [] = byDid.getD did [] ++ l.filterMap (pinnedFor env did) := by
  induction l generalizing byDid with
  | nil => simp
  | cons p l ih =>
    rw [List.foldl_cons, ih, getD_pin, List.append_assoc]
    cases hp : pinnedFor env did p <;> simp [hp]

theorem candidates_new (env : Env) (parsed : Parsed) (pinned : Pinned) (did : String) :
    (new env parsed pinned).candidates did =
      observed env did (parsed.snapshots.getD did []) ++
        pinned.snapshots.zipIdx.filterMap (pinnedFor env did) := by
  rw [candidates, new, getD_foldl_pin]
  congr 1
  rw [ExtTreeMap.getD_eq_getD_getElem?, ExtTreeMap.getD_eq_getD_getElem?, ExtTreeMap.getElem?_map]
  cases parsed.snapshots[did]? <;> rfl

theorem observed_append (env : Env) (did : String) (list added : List Snapshot) :
    observed env did (list ++ added) = observed env did list ++
      (added.zipIdx list.length).map (fun p => ⟨p.1.1, false, p.2, evaluate env did p.1.2⟩) := by
  rw [observed, List.zipIdx_append, List.map_append, observed]
  simp

def GrowsAfter (t : DateTime) (parsed parsed' : Parsed) : Prop :=
  ∀ did, ∃ added, parsed'.snapshots.getD did [] = parsed.snapshots.getD did [] ++ added ∧
    ∀ s ∈ added, t < s.1

theorem candidates_grow (env : Env) (t : DateTime) (parsed parsed' : Parsed) (pinned : Pinned)
    (h : GrowsAfter t parsed parsed') (did : String) :
    ∃ old added pins, (new env parsed pinned).candidates did = old ++ pins ∧
      (new env parsed' pinned).candidates did = old ++ added ++ pins ∧ ∀ c ∈ added, t < c.time := by
  obtain ⟨added, happ, hlate⟩ := h did
  refine ⟨_, (added.zipIdx (parsed.snapshots.getD did []).length).map
    (fun p => ⟨p.1.1, false, p.2, evaluate env did p.1.2⟩), _, candidates_new env parsed pinned did, ?_, ?_⟩
  · rw [candidates_new, happ, observed_append]
  · intro c hc
    obtain ⟨p, hp, rfl⟩ := List.mem_map.mp hc
    exact hlate p.1 (List.fst_mem_of_mem_zipIdx hp)

theorem select_grow (env : Env) (t : DateTime) (parsed parsed' : Parsed) (pinned : Pinned)
    (h : GrowsAfter t parsed parsed') (did : String) :
    (new env parsed' pinned).select did (some t) = (new env parsed pinned).select did (some t) := by
  obtain ⟨old, added, pins, hold, hnew, hlate⟩ := candidates_grow env t parsed parsed' pinned h did
  have hnone : added.filter (fun c => admittedAt (some t) c.time) = [] := by
    rw [List.filter_eq_nil_iff]
    intro c hc
    simpa [admittedAt] using hlate c hc
  rw [select, select, hold, hnew, List.filter_append, List.filter_append, hnone, List.append_nil,
    List.filter_append]

theorem onlyAfter_grow (env : Env) (t : DateTime) (parsed parsed' : Parsed) (pinned : Pinned)
    (h : GrowsAfter t parsed parsed') (did : String) :
    (new env parsed' pinned).onlyAfter did t = (new env parsed pinned).onlyAfter did t ↔
      ¬ ((new env parsed pinned).candidates did = [] ∧ (new env parsed' pinned).candidates did ≠ []) := by
  obtain ⟨old, added, pins, hold, hnew, hlate⟩ := candidates_grow env t parsed parsed' pinned h did
  have hall : added.all (fun c => t < c.time) = true := by simpa using hlate
  rw [onlyAfter, onlyAfter, hold, hnew, List.all_append, List.all_append, List.all_append, hall,
    Bool.and_true]
  cases old <;> cases pins <;> cases added <;> simp

theorem document_congr (keys keys' : BundleKeys) (did : String) (t : Option DateTime)
    (h : keys'.select did t = keys.select did t) : keys'.document did t = keys.document did t := by
  rw [document, document, h]

theorem hasSnapshot_congr (keys keys' : BundleKeys) (did : String) (t : Option DateTime)
    (h : keys'.select did t = keys.select did t) : keys'.hasSnapshot did t = keys.hasSnapshot did t := by
  rw [hasSnapshot, hasSnapshot, h]

theorem check_congr (env : Env) (keys keys' : BundleKeys) (t : Option DateTime)
    (h : ∀ did, keys'.select did t = keys.select did t) (signature : Signature) (hash : ContentHash)
    (expectedDid : String) :
    keys'.check env signature hash expectedDid t = keys.check env signature hash expectedDid t := by
  simp only [check, document_congr keys keys' _ t (h _)]

end Acdp.Chain.BundleKeys
