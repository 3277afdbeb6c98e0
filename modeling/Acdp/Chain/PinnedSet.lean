import Acdp.Chain.Run
import Acdp.Chain.WalkFrontier
import Acdp.Did.Alike
import Acdp.Foundation.Related
import Acdp.Jcs.Injective

namespace Acdp.Chain

open Acdp.Types
open Acdp.Foundation
open Acdp.Foundation.Entries
open Acdp.Jcs (FloatFormat NumberValid sameNumber_of_numberEq tryCanonicalizeValue
  tryCanonicalizeValue_congr)
open Json (Alike Valid)

namespace PinnedSnapshot

def WellFormed (s : PinnedSnapshot) : Prop := Valid NumberValid (.obj s.document)

structure Alike (s s' : PinnedSnapshot) : Prop where
  did : s.did = s'.did
  instant : s.instant = s'.instant
  document : Json.Alike (.obj s.document) (.obj s'.document)

def key (s : PinnedSnapshot) : String ×ₗ String := toLex (s.did, s.instant)

theorem key_eq_iff (s s' : PinnedSnapshot) : s.key = s'.key ↔ s.did = s'.did ∧ s.instant = s'.instant := by
  simp [key, Prod.ext_iff]

theorem Alike.refl (s : PinnedSnapshot) : s.Alike s := ⟨rfl, rfl, .refl _⟩

end PinnedSnapshot

theorem valueEq_iff_alike (a b : Json) (ha : Valid NumberValid a) (hb : Valid NumberValid b) :
    Json.valueEq a b = true ↔ Alike a b := by
  rw [Json.valueEq_iff_same]
  constructor
  · exact fun h => Or.inr ⟨ha, hb, h⟩
  · rintro (rfl | ⟨-, -, h⟩)
    · exact Json.same_refl _ _ Json.numberEq_refl a ha
    · exact h

theorem sameAs_iff (s s' : PinnedSnapshot) (hs : s.WellFormed) (hs' : s'.WellFormed) :
    s.sameAs s' = true ↔ s.Alike s' := by
  rw [PinnedSnapshot.sameAs, Bool.and_eq_true, Bool.and_eq_true, valueEq_iff_alike _ _ hs hs',
    beq_iff_eq, beq_iff_eq]
  constructor
  · rintro ⟨⟨hdid, hdocument⟩, hinstant⟩
    exact ⟨hdid, hinstant, hdocument⟩
  · rintro ⟨hdid, hinstant, hdocument⟩
    exact ⟨⟨hdid, hdocument⟩, hinstant⟩

namespace Pinned

def WellFormed (p : Pinned) : Prop := ∀ s ∈ p.snapshots, s.WellFormed

def Consistent (l : List PinnedSnapshot) : Prop := ∀ s ∈ l, ∀ s' ∈ l, s.key = s'.key → s.Alike s'

/-- The two carry the same pins, in any order and with any repetitions. -/
structure SamePins (p p' : Pinned) : Prop where
  snapshots : ∀ s, s ∈ p'.snapshots ↔ s ∈ p.snapshots
  registries : ∀ d, d ∈ p'.registries ↔ d ∈ p.registries
  witnesses : ∀ d, d ∈ p'.witnesses ↔ d ∈ p.witnesses
  vantages : ∀ h, h ∈ p'.vantages ↔ h ∈ p.vantages
  keylessAttesters : ∀ d, d ∈ p'.keylessAttesters ↔ d ∈ p.keylessAttesters

theorem consistent_congr (l l' : List PinnedSnapshot) (h : ∀ s, s ∈ l' ↔ s ∈ l) :
    Consistent l' ↔ Consistent l := by
  simp only [Consistent, h]

theorem conflicting_eq_none_iff (seen rest : List PinnedSnapshot) (hseen : Consistent seen)
    (hwf : ∀ s ∈ seen ++ rest, s.WellFormed) : conflicting seen rest = none ↔ Consistent (seen ++ rest) := by
  induction rest generalizing seen with
  | nil =>
    rw [List.append_nil]
    exact ⟨fun _ => hseen, fun _ => rfl⟩
  | cons s rest ih =>
    have hmem (x : PinnedSnapshot) : x ∈ (s :: seen) ++ rest ↔ x ∈ seen ++ s :: rest := by
      simp only [List.mem_append, List.mem_cons]
      tauto
    have hnext (hnew : ∀ x ∈ seen, x.key = s.key → x.Alike s) :
        conflicting (s :: seen) rest = none ↔ Consistent (seen ++ s :: rest) := by
      rw [ih (s :: seen) ?_ (fun x hx => hwf x ((hmem x).mp hx)), consistent_congr _ _ hmem]
      intro x hx y hy hkey
      rcases List.mem_cons.mp hx with hxs | hx
      · rw [hxs] at hkey ⊢
        rcases List.mem_cons.mp hy with hys | hy
        · rw [hys]
          exact .refl s
        · obtain ⟨hdid, hinstant, hdocument⟩ := hnew y hy hkey.symm
          exact ⟨hdid.symm, hinstant.symm, hdocument.symm⟩
      · rcases List.mem_cons.mp hy with hys | hy
        · rw [hys] at hkey ⊢
          exact hnew x hx hkey
        · exact hseen x hx y hy hkey
    have hs : s ∈ seen ++ s :: rest := List.mem_append_right _ List.mem_cons_self
    rw [conflicting]
    cases hfind : seen.find? (fun p => p.did == s.did && p.instant == s.instant) with
    | none =>
      refine hnext (fun x hx hkey => ?_)
      have hnone := List.find?_eq_none.mp hfind x hx
      rw [PinnedSnapshot.key_eq_iff] at hkey
      simp [hkey.1, hkey.2] at hnone
    | some prev =>
      have hprev := List.mem_of_find?_eq_some hfind
      have hkey : prev.key = s.key := by
        simpa [PinnedSnapshot.key_eq_iff] using List.find?_some hfind
      have hprevIn : prev ∈ seen ++ s :: rest := List.mem_append_left _ hprev
      dsimp only
      by_cases heq : Json.valueEq (.obj prev.document) (.obj s.document) = true
      · rw [if_pos heq]
        rw [valueEq_iff_alike _ _ (hwf prev hprevIn) (hwf s hs)] at heq
        refine hnext (fun x hx hx' => ?_)
        obtain ⟨hdid, hinstant⟩ := (PinnedSnapshot.key_eq_iff _ _).mp hx'
        exact ⟨hdid, hinstant, (hseen x hx prev hprev (hx'.trans hkey.symm)).document.trans heq⟩
      · rw [if_neg heq]
        refine ⟨nofun, fun hall => absurd ?_ heq⟩
        rw [valueEq_iff_alike _ _ (hwf prev hprevIn) (hwf s hs)]
        exact (hall prev hprevIn s hs hkey).document

theorem forM_ok_iff {α : Type} (f : α → Except ChainError Unit) (l : List α) :
    l.forM f = .ok () ↔ ∀ a ∈ l, f a = .ok () := by
  constructor
  · exact forM_ok f l
  · intro h
    induction l with
    | nil => rfl
    | cons a l ih =>
      rw [List.forall_mem_cons] at h
      change (f a >>= fun _ => l.forM f) = .ok ()
      rw [h.1]
      exact ih h.2

theorem check_ok_iff (env : Env) (keyless : Bool) (p : Pinned) (hp : p.WellFormed) :
    p.check env keyless = .ok () ↔
      Consistent p.snapshots ∧ (∀ s ∈ p.snapshots, checkSnapshot env s = .ok ()) ∧
        (∀ d ∈ p.registries ++ p.witnesses, isDid d = true) ∧ (∀ h ∈ p.vantages, isHostname h = true) ∧
        (keyless = true ∨ p.keylessAttesters = []) ∧ ∀ d ∈ p.keylessAttesters, isDid d = true := by
  have hconsistent := conflicting_eq_none_iff [] p.snapshots (fun s hs => (nomatch hs)) hp
  rw [List.nil_append] at hconsistent
  have hguard (c : Prop) [Decidable c] (err : ChainError) : (if c then .ok () else .error err) =
      Except.ok () ↔ c := by
    by_cases hc : c <;> simp [hc]
  unfold check
  cases hconflicting : conflicting [] p.snapshots with
  | some s =>
    rw [hconflicting] at hconsistent
    refine ⟨nofun, fun h => nomatch hconsistent.mpr h.1⟩
  | none =>
    rw [hconflicting] at hconsistent
    have htail : (do
        if keyless = false ∧ p.keylessAttesters ≠ [] then
          .error (ChainError.invalidOptions
            "pinned.keyless_attesters needs RFC-ACDP-0021 support (the `keyless` feature)")
        p.keylessAttesters.forM (fun d =>
          if isDid d then .ok ()
          else .error (ChainError.invalidOptions s!"pinned keyless attester '{d}' is not a DID"))) =
            Except.ok () ↔
        (keyless = true ∨ p.keylessAttesters = []) ∧ ∀ d ∈ p.keylessAttesters, isDid d = true := by
      rw [guard_ok_iff, forM_ok_iff]
      simp only [hguard]
      refine and_congr_left' ?_
      cases keyless <;> simp
    refine Iff.trans ?_ (and_congr (hconsistent.trans Iff.rfl) Iff.rfl)
    simp only [true_and]
    change (p.snapshots.forM (checkSnapshot env) >>= fun _ => _) = _ ↔ _
    rw [seq_ok_iff, seq_ok_iff, seq_ok_iff, htail, forM_ok_iff, forM_ok_iff, forM_ok_iff]
    simp only [hguard]

section Normalized

theorem mem_normalized (p : Pinned) (s : PinnedSnapshot) (h : s ∈ p.normalized.snapshots) : s ∈ p.snapshots :=
  (List.mem_insertionSort _).mp ((List.destutter_sublist _ _).mem h)

theorem map_key_normalized (p : Pinned) (hp : p.WellFormed) (hconsistent : Consistent p.snapshots) :
    p.normalized.snapshots.map PinnedSnapshot.key =
      ((p.snapshots.map PinnedSnapshot.key).insertionSort (· ≤ ·)).destutter (· ≠ ·) := by
  rw [← List.map_insertionSort (r := fun a b => snapshotLe a b = true)]
  · refine List.map_destutter (fun a ha b hb => ?_)
    rw [List.mem_insertionSort] at ha hb
    rw [not_iff_not, sameAs_iff a b (hp a ha) (hp b hb)]
    constructor
    · exact fun h => (PinnedSnapshot.key_eq_iff a b).mpr ⟨h.did, h.instant⟩
    · exact hconsistent a ha b hb
  · intro a _ b _
    exact decide_eq_true_iff

theorem normalized_snapshots_alike (p p' : Pinned) (hp : p.WellFormed) (hp' : p'.WellFormed)
    (hconsistent : Consistent p.snapshots) (h : p.SamePins p') :
    List.Forall₂ PinnedSnapshot.Alike p'.normalized.snapshots p.normalized.snapshots := by
  have hkeys : p'.normalized.snapshots.map PinnedSnapshot.key =
      p.normalized.snapshots.map PinnedSnapshot.key := by
    rw [map_key_normalized p hp hconsistent,
      map_key_normalized p' hp' ((consistent_congr _ _ h.snapshots).mpr hconsistent)]
    refine Related.destutter_sort_congr _ _ (fun k => ?_)
    simp only [List.mem_map, h.snapshots]
  rw [← List.forall₂_eq_eq_eq, List.forall₂_map_left_iff, List.forall₂_map_right_iff] at hkeys
  have hmem := (List.forall₂_and_left _ _).mpr ⟨mem_normalized p', hkeys⟩
  have hmem' := (List.forall₂_and_left _ _).mpr ⟨mem_normalized p, hmem.flip⟩
  refine hmem'.flip.imp ?_
  rintro s' s ⟨hs, hs', hkey⟩
  exact hconsistent s' ((h.snapshots s').mp hs') s hs hkey

theorem normalized_lists_eq (p p' : Pinned) (h : p.SamePins p') :
    p'.normalized.registries = p.normalized.registries ∧ p'.normalized.witnesses = p.normalized.witnesses ∧
      p'.normalized.vantages = p.normalized.vantages ∧
      p'.normalized.keylessAttesters = p.normalized.keylessAttesters :=
  ⟨sorted_congr _ _ h.registries, sorted_congr _ _ h.witnesses, sorted_congr _ _ h.vantages,
    sorted_congr _ _ h.keylessAttesters⟩

theorem normalized_idem (p : Pinned) : p.normalized.normalized = p.normalized := by
  have hsorted (v : List String) : sorted (sorted v) = sorted v := sorted_congr _ _ (mem_sorted_iff v)
  have htotal : Std.Total (fun a b : PinnedSnapshot => snapshotLe a b = true) :=
    ⟨fun a b => by simp only [snapshotLe, decide_eq_true_eq]; exact le_total _ _⟩
  have htrans : IsTrans PinnedSnapshot (fun a b => snapshotLe a b = true) :=
    ⟨fun a b c => by simp only [snapshotLe, decide_eq_true_eq]; exact le_trans⟩
  have hpairwise : p.normalized.snapshots.Pairwise (fun a b => snapshotLe a b = true) :=
    (List.pairwise_insertionSort _ p.snapshots).sublist (List.destutter_sublist _ _)
  have hsnapshots : p.normalized.normalized.snapshots = p.normalized.snapshots := by
    change (p.normalized.snapshots.insertionSort _).destutter _ = _
    rw [hpairwise.insertionSort_eq]
    exact List.destutter_idem _ _
  have hlists : p.normalized.normalized.registries = p.normalized.registries ∧
      p.normalized.normalized.witnesses = p.normalized.witnesses ∧
      p.normalized.normalized.vantages = p.normalized.vantages ∧
      p.normalized.normalized.keylessAttesters = p.normalized.keylessAttesters :=
    ⟨hsorted _, hsorted _, hsorted _, hsorted _⟩
  obtain ⟨hregistries, hwitnesses, hvantages, hattesters⟩ := hlists
  calc p.normalized.normalized
      = ⟨p.normalized.normalized.snapshots, p.normalized.normalized.registries,
      p.normalized.normalized.witnesses, p.normalized.normalized.vantages,
      p.normalized.normalized.keylessAttesters⟩ := rfl
    _ = p.normalized := by rw [hsnapshots, hregistries, hwitnesses, hvantages, hattesters]

theorem isEmpty_congr (p p' : Pinned) (h : p.SamePins p') : p'.isEmpty = p.isEmpty := by
  have hempty {α : Type} (l l' : List α) (h : ∀ a, a ∈ l' ↔ a ∈ l) : l'.isEmpty = l.isEmpty := by
    rw [Bool.eq_iff_iff, List.isEmpty_iff, List.isEmpty_iff, List.eq_nil_iff_forall_not_mem,
      List.eq_nil_iff_forall_not_mem]
    simp only [h]
  rw [isEmpty, isEmpty, hempty _ _ h.snapshots, hempty _ _ h.registries, hempty _ _ h.witnesses,
    hempty _ _ h.vantages, hempty _ _ h.keylessAttesters]

theorem eq_default_of_isEmpty (p : Pinned) (h : p.isEmpty = true) : p = .default := by
  obtain ⟨snapshots, registries, witnesses, vantages, keylessAttesters⟩ := p
  simp only [isEmpty, Bool.and_eq_true, List.isEmpty_iff] at h
  obtain ⟨⟨⟨⟨rfl, rfl⟩, rfl⟩, rfl⟩, rfl⟩ := h
  rfl

theorem check_of_samePins (env : Env) (keyless : Bool) (p p' : Pinned) (hp : p.WellFormed)
    (hp' : p'.WellFormed) (h : p.SamePins p') (hcheck : p.check env keyless = .ok ()) :
    p'.check env keyless = .ok () := by
  rw [check_ok_iff env keyless p hp] at hcheck
  obtain ⟨hconsistent, hsnapshots, hdids, hvantages, hfeature, hattesters⟩ := hcheck
  rw [check_ok_iff env keyless p' hp', consistent_congr _ _ h.snapshots]
  refine ⟨hconsistent, fun s hs => hsnapshots s ((h.snapshots s).mp hs), fun d hd => hdids d ?_,
    fun v hv => hvantages v ((h.vantages v).mp hv), hfeature.imp_right (fun hnone => ?_),
    fun d hd => hattesters d ((h.keylessAttesters d).mp hd)⟩
  · rw [List.mem_append] at hd ⊢
    exact hd.imp (h.registries d).mp (h.witnesses d).mp
  · rw [List.eq_nil_iff_forall_not_mem] at hnone ⊢
    exact fun d hd => hnone d ((h.keylessAttesters d).mp hd)

end Normalized

end Pinned

section Digest

theorem canonicalize_alike (fmt : FloatFormat) (a b : Json) (h : Alike a b) :
    tryCanonicalizeValue fmt a = tryCanonicalizeValue fmt b := by
  rcases h with rfl | ⟨ha, hb, h⟩
  · rfl
  · exact tryCanonicalizeValue_congr fmt a b ha hb (Json.Same.mono (sameNumber_of_numberEq fmt) a b h)

def jcsDigest (env : Env) (value : Json) : String :=
  match env.canonicalize value with
  | .ok bytes => encodeSha256Hex (env.sha256 bytes)
  | .error _ => ""

def PinnedSnapshot.toValue (s : PinnedSnapshot) : Json :=
  .obj [("did", .str s.did), ("document", .obj s.document), ("instant", .str s.instant)]

def listMember (key : String) (items : List Json) : List (String × Json) :=
  if items = [] then [] else [(key, .arr items)]

def Pinned.listMembers (p : Pinned) : List (String × Json) :=
  listMember "registries" (p.registries.map .str) ++ listMember "witnesses" (p.witnesses.map .str) ++
    listMember "vantages" (p.vantages.map .str) ++ listMember "keyless_attesters"
    (p.keylessAttesters.map .str)

def Pinned.toValue (p : Pinned) : Json :=
  .obj (listMember "snapshots" (p.snapshots.map PinnedSnapshot.toValue) ++ p.listMembers)

theorem keys_listMember (key : String) (items : List Json) :
    ((listMember key items).map Prod.fst).Sublist [key] := by
  unfold listMember
  split
  · exact List.nil_sublist _
  · exact List.Sublist.refl _

theorem valid_listMember (key : String) (items : List Json) (h : ∀ v ∈ items, Valid NumberValid v) :
    ∀ m ∈ listMember key items, Valid NumberValid m.2 := by
  intro m hm
  unfold listMember at hm
  split at hm
  · cases hm
  · rw [List.mem_singleton] at hm
    rw [hm, Valid, Json.validItems_iff]
    exact h

theorem valid_strings (key : String) (l : List String) :
    ∀ m ∈ listMember key (l.map .str), Valid NumberValid m.2 := by
  refine valid_listMember key _ (fun v hv => ?_)
  obtain ⟨s, -, rfl⟩ := List.mem_map.mp hv
  trivial

theorem PinnedSnapshot.valid_toValue (s : PinnedSnapshot) (h : s.WellFormed) :
    Valid NumberValid s.toValue := by
  rw [toValue, Valid, Json.validMembers_iff]
  refine ⟨by simp, fun m hm => ?_⟩
  simp only [List.mem_cons, List.not_mem_nil, or_false] at hm
  rcases hm with rfl | rfl | rfl
  · trivial
  · exact h
  · trivial

theorem Pinned.valid_toValue (p : Pinned) (h : p.WellFormed) : Valid NumberValid p.toValue := by
  rw [toValue, Valid, Json.validMembers_iff]
  constructor
  · have hsub : ((listMember "snapshots" (p.snapshots.map PinnedSnapshot.toValue) ++ p.listMembers).map
        Prod.fst).Sublist ["snapshots", "registries", "witnesses", "vantages", "keyless_attesters"] := by
      simp only [listMembers, List.map_append]
      exact (keys_listMember _ _).append ((((keys_listMember _ _).append (keys_listMember _ _)).append
        (keys_listMember _ _)).append (keys_listMember _ _))
    exact List.Nodup.sublist hsub (by decide)
  · intro m hm
    simp only [listMembers, List.mem_append] at hm
    rcases hm with hm | ((hm | hm) | hm) | hm
    · refine valid_listMember _ _ (fun v hv => ?_) m hm
      obtain ⟨s, hs, rfl⟩ := List.mem_map.mp hv
      exact s.valid_toValue (h s hs)
    all_goals exact valid_strings _ _ m hm

theorem alike_members (as bs : List (String × Json))
    (h : List.Forall₂ (fun m n => m.1 = n.1 ∧ Alike m.2 n.2) as bs)
    (ha : Valid NumberValid (.obj as)) (hb : Valid NumberValid (.obj bs)) : Alike (.obj as) (.obj bs) := by
  have hlookup (k : String) : Option.Rel Alike (as.lookup k) (bs.lookup k) := by
    clear ha hb
    induction h with
    | nil => exact .none
    | @cons m n as bs hmn _ ih =>
      rw [List.lookup_cons, List.lookup_cons, hmn.1]
      cases k == n.1 with
      | true => exact .some hmn.2
      | false => exact ih
  refine Or.inr ⟨ha, hb, ?_⟩
  rw [Valid, Json.validMembers_iff] at ha hb
  rw [Json.same_obj_iff_lookup _ as bs ha.1 hb.1]
  intro k
  have hk := hlookup k
  cases hv : as.lookup k with
  | none =>
    rw [hv] at hk
    cases hw : bs.lookup k with
    | none => exact .none
    | some w =>
      rw [hw] at hk
      cases hk
  | some v =>
    rw [hv] at hk
    cases hw : bs.lookup k with
    | none =>
      rw [hw] at hk
      cases hk
    | some w =>
      rw [hw] at hk
      cases hk with
      | some hvw =>
        have hvalid := ha.2 _ (Json.mem_of_lookup k v as hv)
        have hvalid' := hb.2 _ (Json.mem_of_lookup k w bs hw)
        exact .some ((Json.valueEq_iff_same v w).mp ((valueEq_iff_alike v w hvalid hvalid').mpr hvw))

theorem PinnedSnapshot.Alike.toValue (s s' : PinnedSnapshot) (hs : s.WellFormed) (hs' : s'.WellFormed)
    (h : s.Alike s') : Json.Alike s.toValue s'.toValue := by
  refine alike_members _ _ ?_ (s.valid_toValue hs) (s'.valid_toValue hs')
  refine .cons ⟨rfl, ?_⟩ (.cons ⟨rfl, h.document⟩ (.cons ⟨rfl, ?_⟩ .nil))
  · rw [h.did]
    exact .refl _
  · rw [h.instant]
    exact .refl _

theorem alike_arr (as bs : List Json) (h : List.Forall₂ Alike as bs) (ha : ∀ v ∈ as, Valid NumberValid v)
    (hb : ∀ v ∈ bs, Valid NumberValid v) : Alike (.arr as) (.arr bs) := by
  refine Or.inr ⟨?_, ?_, ?_⟩
  · rwa [Valid, Json.validItems_iff]
  · rwa [Valid, Json.validItems_iff]
  · rw [Json.Same, Json.sameItems_iff]
    have hmem := (List.forall₂_and_left _ _).mpr ⟨ha, h⟩
    have hmem' := (List.forall₂_and_left _ _).mpr ⟨hb, hmem.flip⟩
    refine hmem'.flip.imp ?_
    rintro v w ⟨hw, hv, hvw⟩
    exact (Json.valueEq_iff_same v w).mp ((valueEq_iff_alike v w hv hw).mpr hvw)

namespace Pinned

theorem wellFormed_normalized (p : Pinned) (h : p.WellFormed) : p.normalized.WellFormed :=
  fun s hs => h s (mem_normalized p s hs)

theorem toValue_alike (p p' : Pinned) (hp : p.WellFormed) (hp' : p'.WellFormed)
    (hsnapshots : List.Forall₂ PinnedSnapshot.Alike p'.snapshots p.snapshots)
    (hlists : p'.listMembers = p.listMembers) : Json.Alike p'.toValue p.toValue := by
  have hvalues : List.Forall₂ Json.Alike (p'.snapshots.map PinnedSnapshot.toValue)
      (p.snapshots.map PinnedSnapshot.toValue) := by
    rw [List.forall₂_map_left_iff, List.forall₂_map_right_iff]
    have hmem := (List.forall₂_and_left _ _).mpr ⟨hp', hsnapshots⟩
    have hmem' := (List.forall₂_and_left _ _).mpr ⟨hp, hmem.flip⟩
    refine hmem'.flip.imp ?_
    rintro s' s ⟨hs, hs', halike⟩
    exact halike.toValue s' s hs' hs
  have hvalid (q : Pinned) (hq : q.WellFormed) : ∀ v ∈ q.snapshots.map PinnedSnapshot.toValue,
      Valid NumberValid v := by
    intro v hv
    obtain ⟨s, hs, rfl⟩ := List.mem_map.mp hv
    exact s.valid_toValue (hq s hs)
  refine alike_members _ _ ?_ (valid_toValue p' hp') (valid_toValue p hp)
  rw [hlists]
  refine List.rel_append ?_ (List.forall₂_same.mpr (fun m _ => ⟨rfl, .refl _⟩))
  have harr := alike_arr _ _ hvalues (hvalid p' hp') (hvalid p hp)
  revert hvalues harr
  generalize p'.snapshots.map PinnedSnapshot.toValue = xs
  generalize p.snapshots.map PinnedSnapshot.toValue = ys
  intro hvalues harr
  cases hvalues with
  | nil => exact .nil
  | cons _ _ => exact .cons ⟨rfl, harr⟩ .nil

theorem digest_congr (env : Env) (fmt : FloatFormat) (hjcs : env.canonicalize = tryCanonicalizeValue fmt)
    (jcs : JcsDigest) (hdigest : ∀ p : Pinned, jcs.pinned p = jcsDigest env p.toValue) (p p' : Pinned)
    (hp : p.WellFormed) (hp' : p'.WellFormed) (hconsistent : Consistent p.snapshots) (h : p.SamePins p') :
    p'.digest jcs = p.digest jcs := by
  obtain ⟨hregistries, hwitnesses, hvantages, hattesters⟩ := normalized_lists_eq p p' h
  have hvalue := toValue_alike p.normalized p'.normalized (wellFormed_normalized p hp)
    (wellFormed_normalized p' hp') (normalized_snapshots_alike p p' hp hp' hconsistent h)
    (by rw [listMembers, listMembers, hregistries, hwitnesses, hvantages, hattesters])
  rw [digest, digest, isEmpty_congr p p' h, hdigest, hdigest, jcsDigest, jcsDigest, hjcs,
    canonicalize_alike fmt _ _ hvalue]

end Pinned

end Digest

end Acdp.Chain
