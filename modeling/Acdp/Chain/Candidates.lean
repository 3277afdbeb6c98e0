import Acdp.Chain.Accepted
import Acdp.Chain.KeysAsOf
import Acdp.Foundation.Selection

namespace Acdp.Chain

open Acdp.Types
open Acdp.Foundation
open Acdp.Foundation.Entries
open Std (ExtTreeMap)

/-- `docs'` is `docs` with snapshots appended that were observed after `t`. -/
def SnapshotsAppended (env : Env) (t : DateTime) (docs docs' : ExtTreeMap String (List DidSnapshot)) : Prop :=
  ∀ did, ∃ added, docs'.getD did [] = docs.getD did [] ++ added ∧
    ∀ s ∈ added, ∃ time, parseTs env s.observedAt = some time ∧ t < time

theorem parseSnapshot_time (env : Env) (s : DidSnapshot) (p : Snapshot) (h : parseSnapshot env s = .ok p) :
    parseTs env s.observedAt = some p.1 := by
  unfold parseSnapshot at h
  split_ifs at h
  obtain ⟨time, htime, h⟩ := bind_ok _ _ _ h
  obtain rfl := Except.ok.inj h
  exact ts_ok env _ _ _ htime

theorem parseSnapshots_forall₂ (env : Env) (docs : ExtTreeMap String (List DidSnapshot))
    (snapshots : ExtTreeMap String (List Snapshot))
    (h : parseEntries (parseSnapshots env) docs = .ok snapshots) (did : String) :
    List.Forall₂ (fun s p => parseSnapshot env s = .ok p) (docs.getD did []) (snapshots.getD did []) := by
  rw [ExtTreeMap.getD_eq_getD_getElem?, ExtTreeMap.getD_eq_getD_getElem?]
  cases hdocs : docs[did]? with
  | none =>
    rw [(parseEntries_none _ _ _ h did).mpr hdocs]
    exact .nil
  | some list =>
    obtain ⟨parsed, hparsed, hlist⟩ := parseEntries_target _ _ _ h did list hdocs
    rw [hparsed]
    unfold parseSnapshots at hlist
    split_ifs at hlist
    exact forall₂_of_mapM_ok _ _ _ hlist

theorem not_didKey_of_parseSnapshots (env : Env) (docs : ExtTreeMap String (List DidSnapshot))
    (snapshots : ExtTreeMap String (List Snapshot))
    (h : parseEntries (parseSnapshots env) docs = .ok snapshots) (did : String)
    (hdid : docs.getD did [] ≠ []) :
    ¬ Text.hasPrefix "did:key:" did := by
  rw [ExtTreeMap.getD_eq_getD_getElem?] at hdid
  cases hdocs : docs[did]? with
  | none => simp [hdocs] at hdid
  | some list =>
    obtain ⟨parsed, -, hlist⟩ := parseEntries_target _ _ _ h did list hdocs
    unfold parseSnapshots at hlist
    split_ifs at hlist with hbad
    exact fun hkey => hbad (.inr hkey)

theorem growsAfter_of_appended (env : Env) (t : DateTime) (docs docs' : ExtTreeMap String (List DidSnapshot))
    (parsed parsed' : Parsed) (happended : SnapshotsAppended env t docs docs')
    (h : parseEntries (parseSnapshots env) docs = .ok parsed.snapshots)
    (h' : parseEntries (parseSnapshots env) docs' = .ok parsed'.snapshots) :
    BundleKeys.GrowsAfter t parsed parsed' := by
  intro did
  obtain ⟨added, hadded, hlate⟩ := happended did
  have hnew := parseSnapshots_forall₂ env docs' _ h' did
  rw [hadded] at hnew
  obtain ⟨rest, hrest, hadded⟩ :=
    append_of_forall₂_ok _ _ _ _ _ (parseSnapshots_forall₂ env docs _ h did) hnew
  refine ⟨rest, hrest, ?_⟩
  intro p hp
  obtain ⟨s, hs, hparse⟩ := mem_of_forall₂_ok _ _ _ hadded p hp
  obtain ⟨time, htime, hlt⟩ := hlate s hs
  rw [parseSnapshot_time env s p hparse] at htime
  rwa [Option.some.inj htime]

def namesKeyOf (did keyId : String) : Bool :=
  (Text.splitOnceChar '#' keyId).any (fun p =>
    p.1 == did && p.2 ≠ "" && !Text.hasPrefix keylessFragmentPrefix p.2)

theorem BundleKeys.check_of_no_candidates (env : Env) (keys : BundleKeys) (t : Option DateTime) (did : String)
    (hdid : keys.candidates did = []) (hkey : ¬ Text.hasPrefix "did:key:" did) (signature : Signature)
    (hash : ContentHash) :
    keys.check env signature hash did t = .error .noEvidence ↔ namesKeyOf did signature.keyId := by
  have hdocument : keys.document did t = none := by
    simp [document, select, hdid]
  unfold check namesKeyOf
  cases hsplit : Text.splitOnceChar '#' signature.keyId with
  | none => simp
  | some p =>
    obtain ⟨owner, fragment⟩ := p
    by_cases howner : owner = did
    · subst howner
      by_cases hempty : fragment = ""
      · simp [hempty]
      · by_cases hfragment : Text.hasPrefix keylessFragmentPrefix fragment = true
        · simp [hempty, hfragment]
        · simp [hempty, hfragment, hkey, hdocument]
    · simp [howner]

theorem parseTs_of_check (env : Env) (keyless : Bool) (pinned : Pinned)
    (h : pinned.check env keyless = .ok ()) (s : PinnedSnapshot) (hs : s ∈ pinned.snapshots) :
    parseTs env s.instant ≠ none := by
  unfold Pinned.check at h
  cases hconflicting : Pinned.conflicting [] pinned.snapshots with
  | some c =>
    rw [hconflicting] at h
    cases h
  | none =>
    rw [hconflicting] at h
    obtain ⟨⟨⟩, hsnapshots, -⟩ := bind_ok _ _ _ h
    have hsnapshot := forM_ok _ _ hsnapshots s hs
    unfold Pinned.checkSnapshot at hsnapshot
    split_ifs at hsnapshot with _ hparse
    exact hparse

theorem mem_normalized_did (pinned : Pinned) (did : String) :
    (∃ s ∈ pinned.normalized.snapshots, s.did = did) ↔ ∃ s ∈ pinned.snapshots, s.did = did := by
  have hdid := Selection.mem_map_destutter (fun a b => ¬ a.sameAs b) PinnedSnapshot.did
    (fun a b hab => by simp_all [PinnedSnapshot.sameAs])
    (pinned.snapshots.insertionSort (fun a b => Pinned.snapshotLe a b)) did
  simpa [List.mem_map, Pinned.normalized] using hdid

theorem check_pinned (env : Env) (keyless : Bool) (options : Options) (h : options.check env keyless = .ok ())
    (pinned : Pinned) (hpinned : options.pinned = some pinned) : pinned.check env keyless = .ok () := by
  unfold Options.check at h
  obtain ⟨⟨⟩, -, h⟩ := bind_ok _ _ _ h
  rw [hpinned] at h
  dsimp only at h
  split at h
  · cases h
  · cases hasOf : options.asOf with
    | none =>
      rw [hasOf] at h
      exact h
    | some t =>
      rw [hasOf] at h
      dsimp only at h
      split at h
      · cases h
      · exact h

theorem pinnedFor_eq_nil (env : Env) (pinned : Pinned) (did : String)
    (hparse : ∀ s ∈ pinned.snapshots, parseTs env s.instant ≠ none) :
    pinned.normalized.snapshots.zipIdx.filterMap (BundleKeys.pinnedFor env did) = [] ↔
      ∀ s ∈ pinned.snapshots, s.did ≠ did := by
  have hsub (s : PinnedSnapshot) (hs : s ∈ pinned.normalized.snapshots) : s ∈ pinned.snapshots :=
    (List.mem_insertionSort _).mp ((List.destutter_sublist _ _).mem hs)
  rw [List.filterMap_eq_nil_iff]
  constructor
  · intro hnone s hs hdid
    obtain ⟨s', hs', hdid'⟩ := (mem_normalized_did pinned did).mpr ⟨s, hs, hdid⟩
    obtain ⟨i, hi, rfl⟩ := List.getElem_of_mem hs'
    have hfor := hnone (pinned.normalized.snapshots[i], i) (List.mk_mem_zipIdx_iff_getElem?.mpr
      (List.getElem?_eq_getElem hi))
    simp only [BundleKeys.pinnedFor, hdid', if_true, Option.map_eq_none_iff] at hfor
    exact hparse _ (hsub _ hs') hfor
  · intro hall p hp
    rw [BundleKeys.pinnedFor, if_neg (hall p.1 (hsub p.1 (List.fst_mem_of_mem_zipIdx hp)))]

theorem candidates_eq_nil (env : Env) (keyless : Bool) (evidence : Evidence) (parsed : Parsed)
    (options : Options) (hoptions : options.check env keyless = .ok ())
    (haccepted : evidence.Accepted env parsed) (did : String) :
    (engineOf env keyless parsed options).keys.candidates did = [] ↔
      (evidence.didDocuments.getD ∅).getD did [] = [] ∧
        ∀ s ∈ (options.pinned.getD .default).snapshots, s.did ≠ did := by
  have hparse : ∀ s ∈ (options.pinned.getD .default).snapshots, parseTs env s.instant ≠ none := by
    cases hpinned : options.pinned with
    | none => simp [Pinned.default]
    | some pinned =>
      exact parseTs_of_check env keyless pinned (check_pinned env keyless options hoptions pinned hpinned)
  have hlength := (parseSnapshots_forall₂ env _ _ haccepted.snapshots did).length_eq
  have hobserved : BundleKeys.observed env did (parsed.snapshots.getD did []) = [] ↔
      (evidence.didDocuments.getD ∅).getD did [] = [] := by
    rw [← List.length_eq_zero_iff, ← List.length_eq_zero_iff, hlength]
    simp [BundleKeys.observed]
  rw [engineOf, BundleKeys.candidates_new, List.append_eq_nil_iff, hobserved,
    pinnedFor_eq_nil env _ did hparse]

end Acdp.Chain
