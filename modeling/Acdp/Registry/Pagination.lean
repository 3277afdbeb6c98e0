import Acdp.Foundation.Entries
import Acdp.Foundation.Keyset
import Mathlib.Data.List.TakeDrop
import Mathlib.Data.Nat.Basic
import Mathlib.Order.Lattice

namespace Acdp.Registry.Pagination

open Acdp.Foundation.Entries
open Acdp.Foundation.Keyset

structure Paginated (T C : Type) where
  items : List T
  nextCursor : Option C
deriving DecidableEq, Repr

section Helpers

variable {R T C ε : Type}

def paginateScanned (scanned : List T) (hasMore : Bool) (keep : T → Bool) (cursorOf : T → C) :
    Paginated T C where
  items := scanned.filter keep
  nextCursor := if hasMore then scanned.getLast?.map cursorOf else none

def tryPaginateRows (rows : List R) (limit : ℕ) (decode : R → Except ε T) (keep : T → Bool)
    (cursorOf : T → C) : Except ε (Paginated T C) := do
  let hasMore := decide (limit < rows.length)
  let scanned ← (rows.take limit).mapM decode
  return paginateScanned scanned hasMore keep cursorOf

theorem mapM_append_error (decode : R → Except ε T) (l l' : List R) (e : ε) (h : l.mapM decode = .error e) :
    (l ++ l').mapM decode = .error e := by
  rw [List.mapM_append, h]
  rfl

theorem mapM_append_ok (decode : R → Except ε T) (l l' : List R) (ts : List T) (h : l.mapM decode = .ok ts) :
    (l ++ l').mapM decode = (l'.mapM decode).map (ts ++ ·) := by
  rw [List.mapM_append, h]
  cases l'.mapM decode <;> rfl

theorem mapM_eq_error_iff (decode : R → Except ε T) (l : List R) (e : ε) :
    l.mapM decode = .error e ↔
      ∃ before r after, l = before ++ r :: after ∧ decode r = .error e ∧ ∀ b ∈ before, ∃ t,
        decode b = .ok t := by
  induction l with
  | nil =>
    refine ⟨nofun, ?_⟩
    rintro ⟨before, r, after, heq, -⟩
    simp at heq
  | cons a l ih =>
    rw [List.mapM_cons]
    cases ha : decode a with
    | error e' =>
      constructor
      · intro h
        obtain rfl := Except.error.inj h
        exact ⟨[], a, l, rfl, ha, nofun⟩
      · rintro ⟨before, r, after, heq, hr, hbefore⟩
        cases before with
        | nil =>
          obtain ⟨rfl, -⟩ := List.cons.inj heq
          rw [ha] at hr
          cases hr
          rfl
        | cons b before =>
          obtain ⟨rfl, -⟩ := List.cons.inj heq
          obtain ⟨t, ht⟩ := hbefore a List.mem_cons_self
          rw [ha] at ht
          cases ht
    | ok t =>
      have hrest : (do let t ← Except.ok t; let ts ← l.mapM decode; pure (t :: ts)) = Except.error e ↔
          l.mapM decode = .error e := by
        cases l.mapM decode <;> simp [bind, Except.bind, pure, Except.pure]
      rw [hrest, ih]
      constructor
      · rintro ⟨before, r, after, rfl, hr, hbefore⟩
        refine ⟨a :: before, r, after, rfl, hr, ?_⟩
        rw [List.forall_mem_cons]
        exact ⟨⟨t, ha⟩, hbefore⟩
      · rintro ⟨before, r, after, heq, hr, hbefore⟩
        cases before with
        | nil =>
          obtain ⟨rfl, -⟩ := List.cons.inj heq
          rw [ha] at hr
          cases hr
        | cons b before =>
          obtain ⟨-, rfl⟩ := List.cons.inj heq
          exact ⟨before, r, after, rfl, hr, fun x hx => hbefore x (List.mem_cons_of_mem _ hx)⟩

theorem getLast?_of_mapM (decode : R → Except ε T) (l : List R) (ts : List T)
    (h : l.mapM decode = .ok ts) (r : R) (hlast : l.getLast? = some r) : ∃ t, ts.getLast? = some t ∧
      decode r = .ok t := by
  obtain ⟨init, rfl⟩ := List.getLast?_eq_some_iff.mp hlast
  rw [List.mapM_append] at h
  obtain ⟨front, -, h⟩ := bind_ok _ _ _ h
  obtain ⟨back, hback, h⟩ := bind_ok _ _ _ h
  obtain rfl := Except.ok.inj h
  rw [List.mapM_cons] at hback
  obtain ⟨t, ht, hback⟩ := bind_ok _ _ _ hback
  obtain rfl := Except.ok.inj hback
  exact ⟨t, List.getLast?_concat .., ht⟩

end Helpers

section Walk

variable {R T κ ε : Type} [LinearOrder κ] (key : R → κ) (rows : List R) (limit : ℕ)

def rowsAfter : Option κ → List R
  | none => rows
  | some c => rows.filter (fun r => c < key r)

def fetchRows (cursor : Option κ) : List R := (rowsAfter key rows cursor).take (limit + 1)

def scannedRows (cursor : Option κ) : List R := (rowsAfter key rows cursor).take limit

variable (decode : R → Except ε T) (keep : T → Bool) (cursorOf : T → κ)

def fetchPage (cursor : Option κ) : Except ε (Paginated T κ) :=
  tryPaginateRows (fetchRows key rows limit cursor) limit decode keep cursorOf

theorem fetchPage_eq (cursor : Option κ) :
    fetchPage key rows limit decode keep cursorOf cursor =
      ((scannedRows key rows limit cursor).mapM decode).map (fun scanned =>
        paginateScanned scanned (decide (limit < (rowsAfter key rows cursor).length)) keep cursorOf) := by
  have hmore : decide (limit < (fetchRows key rows limit cursor).length) =
      decide (limit < (rowsAfter key rows cursor).length) := by
    rw [fetchRows, List.length_take, decide_eq_decide]
    omega
  have htake : (fetchRows key rows limit cursor).take limit = scannedRows key rows limit cursor := by
    rw [fetchRows, scannedRows, List.take_take, Nat.min_eq_left (Nat.le_succ limit)]
  rw [fetchPage, tryPaginateRows, htake, hmore]
  cases (scannedRows key rows limit cursor).mapM decode <;> rfl

/-- `rest` is the part of the table that the cursor has not passed. -/
def Position (cursor : Option κ) (rest : List R) : Prop :=
  ∃ done, rows = done ++ rest ∧ rowsAfter key rows cursor = rest

variable (hcursor : ∀ r t, decode r = .ok t → cursorOf t = key r)
    (hrows : rows.Pairwise (fun a b => key a < key b)) (hlimit : 1 ≤ limit)

include hcursor hrows hlimit in
theorem position_next (cursor : Option κ) (rest : List R) (hpos : Position key rows cursor rest) (ts : List T)
    (hscanned : (rest.take limit).mapM decode = .ok ts) (hmore : limit < rest.length) :
    ∃ c, ts.getLast?.map cursorOf = some c ∧ Position key rows (some c) (rest.drop limit) := by
  obtain ⟨done, hdone, hafter⟩ := hpos
  have hne : rest.take limit ≠ [] := by
    rw [← List.length_pos_iff, List.length_take]
    omega
  obtain ⟨r, hr⟩ : ∃ r, (rest.take limit).getLast? = some r := ⟨_, List.getLast?_eq_some_getLast hne⟩
  obtain ⟨t, ht, hdecode⟩ := getLast?_of_mapM decode _ ts hscanned r hr
  refine ⟨cursorOf t, by rw [ht]; rfl, done ++ rest.take limit, ?_, ?_⟩
  · rw [List.append_assoc, List.take_append_drop, hdone]
  · have hsplit : rows = (done ++ rest.take limit) ++ rest.drop limit := by
      rw [List.append_assoc, List.take_append_drop, hdone]
    have hlast : (done ++ rest.take limit).getLast? = some r := by
      rw [List.getLast?_append, hr]
      rfl
    rw [rowsAfter, hcursor r t hdecode]
    refine Eq.trans (congrArg (List.filter _) hsplit) ?_
    refine filter_after_last (fun a b => decide (key a < key b)) (fun a => decide_eq_false (lt_irrefl _))
      (fun a b hab => ?_) _ _ r ?_ hlast
    · exact decide_eq_false (lt_asymm (of_decide_eq_true hab))
    · rw [← hsplit]
      exact hrows.imp (fun hab => decide_eq_true hab)

include hcursor hrows hlimit in
theorem follow_from (fuel : ℕ) (cursor : Option κ) (rest : List R) (hpos : Position key rows cursor rest)
    (hfuel : rest.length < fuel) :
    (follow (fetchPage key rows limit decode keep cursorOf) (·.nextCursor) fuel cursor).map
        (·.map (·.flatMap (·.items))) = some ((rest.mapM decode).map (·.filter keep)) := by
  induction fuel generalizing cursor rest with
  | zero => omega
  | succ fuel ih =>
    have hpage := fetchPage_eq key rows limit decode keep cursorOf cursor
    rw [scannedRows, hpos.choose_spec.2] at hpage
    rw [follow, hpage]
    cases hscanned : (rest.take limit).mapM decode with
    | error e =>
      have herror := mapM_append_error decode _ (rest.drop limit) e hscanned
      rw [List.take_append_drop] at herror
      rw [herror]
      rfl
    | ok ts =>
      have hwhole := mapM_append_ok decode _ (rest.drop limit) ts hscanned
      rw [List.take_append_drop] at hwhole
      rw [hwhole]
      by_cases hmore : limit < rest.length
      · obtain ⟨c, hc, hnext⟩ :=
          position_next key rows limit decode cursorOf hcursor hrows hlimit cursor rest hpos ts hscanned hmore
        have hrest := ih (some c) (rest.drop limit) hnext (by rw [List.length_drop]; omega)
        simp only [Except.map, paginateScanned, decide_eq_true hmore, if_true, hc]
        -- the pages that follow contribute the rows that follow
        revert hrest
        generalize follow (fetchPage key rows limit decode keep cursorOf) (·.nextCursor) fuel (some c) =
          walked
        generalize (rest.drop limit).mapM decode = decoded
        intro hrest
        rcases walked with - | (e | pages)
        · cases hrest
        · cases decoded with
          | error e' =>
            cases hrest
            rfl
          | ok ts' => cases hrest
        · cases decoded with
          | error e' => cases hrest
          | ok ts' =>
            have hitems := Except.ok.inj (Option.some.inj hrest)
            simp only [Option.map_some, List.flatMap_cons, hitems, List.filter_append]
      · have hdrop : rest.drop limit = [] := List.drop_eq_nil_iff.mpr (Nat.not_lt.mp hmore)
        simp [Except.map, paginateScanned, hmore, hdrop, pure, Except.pure]

theorem mapM_total (f : R → T) (hdecode : ∀ r, decode r = .ok (f r)) (l : List R) :
    l.mapM decode = .ok (l.map f) := by
  induction l with
  | nil => rfl
  | cons r l ih =>
    rw [List.mapM_cons, hdecode, ih]
    rfl

include hlimit in
theorem nextCursor_eq_none_iff (cursor : Option κ) (page : Paginated T κ)
    (hpage : fetchPage key rows limit decode keep cursorOf cursor = .ok page) :
    ((scannedRows key rows limit cursor).mapM decode).map (·.filter keep) = .ok page.items ∧
      (page.nextCursor = none ↔ scannedRows key rows limit cursor = rowsAfter key rows cursor) := by
  rw [fetchPage_eq] at hpage
  cases hscanned : (scannedRows key rows limit cursor).mapM decode with
  | error e =>
    rw [hscanned] at hpage
    cases hpage
  | ok ts =>
    rw [hscanned] at hpage
    obtain rfl := Except.ok.inj hpage
    refine ⟨rfl, ?_⟩
    rw [scannedRows, List.take_eq_self_iff]
    by_cases hmore : limit < (rowsAfter key rows cursor).length
    · have hne : scannedRows key rows limit cursor ≠ [] := by
        rw [← List.length_pos_iff, scannedRows, List.length_take]
        omega
      obtain ⟨t, ht, -⟩ := getLast?_of_mapM decode _ ts hscanned _ (List.getLast?_eq_some_getLast hne)
      simp only [paginateScanned, decide_eq_true hmore, if_true, ht, Option.map_some, reduceCtorEq, false_iff]
      omega
    · simp only [paginateScanned, decide_eq_false hmore, Bool.false_eq_true, if_false, true_iff]
      omega

theorem fetchPage_eq_error_iff (cursor : Option κ) (e : ε) :
    fetchPage key rows limit decode keep cursorOf cursor = .error e ↔
      ∃ before r after, scannedRows key rows limit cursor = before ++ r :: after ∧ decode r = .error e ∧
        ∀ b ∈ before, ∃ t, decode b = .ok t := by
  rw [← mapM_eq_error_iff, fetchPage_eq]
  cases (scannedRows key rows limit cursor).mapM decode <;> simp [Except.map]

include hcursor hrows hlimit in
/-- A walk over the whole table delivers what decodes and passes the filter, each once and in order; it
fails where a row does not decode, and ends only with nothing left to scan. -/
theorem paginated_walk_complete :
    (∀ f : R → T, (∀ r, decode r = .ok (f r)) → ∀ fuel, rows.length < fuel →
      ∃ pages, follow (fetchPage key rows limit decode keep cursorOf) (·.nextCursor) fuel none =
        some (.ok pages) ∧ pages.flatMap (·.items) = (rows.map f).filter keep) ∧
    (∀ fuel, rows.length < fuel →
      (follow (fetchPage key rows limit decode keep cursorOf) (·.nextCursor) fuel none).map
        (·.map (·.flatMap (·.items))) = some ((rows.mapM decode).map (·.filter keep))) ∧
    (∀ cursor page, fetchPage key rows limit decode keep cursorOf cursor = .ok page →
      ((scannedRows key rows limit cursor).mapM decode).map (·.filter keep) = .ok page.items ∧
        (page.nextCursor = none ↔ scannedRows key rows limit cursor = rowsAfter key rows cursor)) ∧
    (∀ cursor e, fetchPage key rows limit decode keep cursorOf cursor = .error e ↔
      ∃ before r after, scannedRows key rows limit cursor = before ++ r :: after ∧ decode r = .error e ∧
        ∀ b ∈ before, ∃ t, decode b = .ok t) := by
  have hwalk (fuel : ℕ) (hfuel : rows.length < fuel) :=
    follow_from key rows limit decode keep cursorOf hcursor hrows hlimit fuel none rows ⟨[], rfl, rfl⟩ hfuel
  refine ⟨fun f hdecode fuel hfuel => ?_, hwalk, nextCursor_eq_none_iff key rows limit decode keep
    cursorOf hlimit, fetchPage_eq_error_iff key rows limit decode keep cursorOf⟩
  have hitems := hwalk fuel hfuel
  rw [mapM_total decode f hdecode] at hitems
  revert hitems
  generalize follow (fetchPage key rows limit decode keep cursorOf) (·.nextCursor) fuel none = walked
  intro hitems
  rcases walked with - | (e | pages)
  · cases hitems
  · cases hitems
  · exact ⟨pages, rfl, Except.ok.inj (Option.some.inj hitems)⟩

end Walk

theorem paginated_walk_filtered :
    ∃ pages, follow (fetchPage id [10, 20, 30] 2 (Except.ok (ε := String)) (fun n => n == 30) id)
      (·.nextCursor) 4 none = some (.ok pages) ∧ pages.flatMap (·.items) = [30] :=
  (paginated_walk_complete id [10, 20, 30] 2 (Except.ok (ε := String)) (fun n => n == 30) id
    (fun _ _ h => (Except.ok.inj h).symm) (by decide) (by decide)).1 id (fun _ => rfl) 4 (by decide)

end Acdp.Registry.Pagination
