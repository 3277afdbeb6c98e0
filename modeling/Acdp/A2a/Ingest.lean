import Acdp.A2a.Agreement

namespace Acdp.A2a.TaskAssembly

open Acdp.Types

section Listed

variable (env : A2aEnv)

def idOf (a : Json) : Option String := a.asObject.bind (fun o => (artifactIdOf o).toOption)

/-- What an assembly that holds `known` takes; of an artifact that it holds only the id is read. -/
def Acceptable (known : List String) (a : Json) : Prop :=
  ∃ o id, a.asObject = some o ∧ artifactIdOf o = .ok id ∧ (id ∈ known ∨ ∃ f, artifactFields env o = .ok f)

def AllAcceptable : List String → List Json → Prop
  | _, [] => True
  | known, a :: rest => Acceptable env known a ∧ AllAcceptable (known ++ (idOf a).toList) rest

theorem idOf_eq_some (a : Json) (o : List (String × Json)) (id : String) (ho : a.asObject = some o)
    (hid : artifactIdOf o = .ok id) : idOf a = some id := by
  rw [idOf, ho, Option.bind_some, hid]
  rfl

theorem Acceptable.congr (known known' : List String) (h : ∀ id, id ∈ known ↔ id ∈ known') (a : Json) :
    Acceptable env known a ↔ Acceptable env known' a := by
  simp only [Acceptable, h]

theorem AllAcceptable.congr (known known' : List String) (h : ∀ id, id ∈ known ↔ id ∈ known')
    (artifacts : List Json) : AllAcceptable env known artifacts ↔ AllAcceptable env known' artifacts := by
  induction artifacts generalizing known known' with
  | nil => rfl
  | cons a rest ih =>
    rw [AllAcceptable, AllAcceptable, Acceptable.congr env known known' h]
    refine and_congr_right (fun _ => ih _ _ ?_)
    intro id
    rw [List.mem_append, List.mem_append, h]

end Listed

section Adopt

variable (env : A2aEnv) (s : TaskAssembly)

def ids : List String := s.entries.map (·.art.artifactId)

def Adopted (s' : TaskAssembly) (listed : List String) : Prop :=
  ∃ added : List Entry, s' = { s with entries := s.entries ++ added } ∧
    (∀ e ∈ added, e.complete = false ∧ e.art.artifactId ∈ listed ∧ e.art.artifactId ∉ s.ids) ∧
    ∀ id ∈ listed, id ∈ s'.ids

theorem Adopted.nil : Adopted s s [] := ⟨[], by rw [List.append_nil], by simp, by simp⟩

theorem mem_ids_iff (id : String) : id ∈ s.ids ↔ s.entries.any (fun e => e.art.artifactId = id) = true := by
  simp [ids]

theorem ids_append (added : List Entry) :
    ids { s with entries := s.entries ++ added } = s.ids ++ added.map (·.art.artifactId) := by
  rw [ids, List.map_append]
  rfl

theorem Adopted.cons (s s₁ s₂ : TaskAssembly) (id : String) (rest : List String) (h₁ : Adopted s s₁ [id])
    (h₂ : Adopted s₁ s₂ rest) : Adopted s s₂ (id :: rest) := by
  obtain ⟨added, rfl, hadded, hheld⟩ := h₁
  obtain ⟨more, rfl, hmore, hrest⟩ := h₂
  refine ⟨added ++ more, by simp only [List.append_assoc], ?_, ?_⟩
  · intro e he
    rcases List.mem_append.mp he with he | he
    · obtain ⟨hc, hid, hnew⟩ := hadded e he
      obtain rfl := List.mem_singleton.mp hid
      exact ⟨hc, List.mem_cons_self, hnew⟩
    · obtain ⟨hc, hid, hnew⟩ := hmore e he
      rw [ids_append, List.mem_append, not_or] at hnew
      exact ⟨hc, List.mem_cons_of_mem _ hid, hnew.1⟩
  · intro id' hid'
    rcases List.mem_cons.mp hid' with rfl | hid'
    · have h := hheld id' (List.mem_singleton.mpr rfl)
      rw [ids_append]
      exact List.mem_append_left _ h
    · exact hrest id' hid'

theorem Adopted.eq_iff (s' : TaskAssembly) (listed : List String) (h : Adopted s s' listed) :
    s' = s ↔ ∀ id ∈ listed, id ∈ s.ids := by
  obtain ⟨added, rfl, hadded, hheld⟩ := h
  constructor
  · intro heq
    rw [heq] at hheld
    exact hheld
  · intro hall
    cases added with
    | nil => rw [List.append_nil]
    | cons e rest =>
      obtain ⟨-, hid, hnew⟩ := hadded e List.mem_cons_self
      exact absurd (hall _ hid) hnew

theorem Adopted.mem_ids_iff (s' : TaskAssembly) (listed : List String) (h : Adopted s s' listed)
    (id : String) : id ∈ s'.ids ↔ id ∈ s.ids ++ listed := by
  obtain ⟨added, rfl, hadded, hheld⟩ := h
  constructor
  · intro hid
    rw [ids_append, List.mem_append] at hid
    rcases hid with hid | hid
    · exact List.mem_append_left _ hid
    · obtain ⟨e, he, rfl⟩ := List.mem_map.mp hid
      exact List.mem_append_right _ (hadded e he).2.1
  · intro hid
    rcases List.mem_append.mp hid with hid | hid
    · rw [ids_append]
      exact List.mem_append_left _ hid
    · exact hheld id hid

theorem adopt_of_acceptable (a : Json) (h : Acceptable env s.ids a) :
    ∃ s' id, idOf a = some id ∧ s.adopt env a = (s', .ok id) ∧ Adopted s s' [id] := by
  obtain ⟨o, id, ho, hid, h⟩ := h
  unfold adopt
  simp only [ho, hid]
  by_cases hheld : id ∈ s.ids
  · rw [if_pos ((mem_ids_iff s id).mp hheld)]
    exact ⟨s, id, idOf_eq_some a o id ho hid, rfl, [], by rw [List.append_nil], by simp, by simpa using hheld⟩
  · obtain ⟨f, hf⟩ := h.resolve_left hheld
    rw [if_neg (fun hany => hheld ((mem_ids_iff s id).mpr hany)), hf]
    refine ⟨_, id, idOf_eq_some a o id ho hid, rfl, _, rfl, ?_, ?_⟩
    · simpa using hheld
    · simp [ids]

theorem adopt_of_not_acceptable (a : Json) (h : ¬ Acceptable env s.ids a) :
    ∃ e, s.adopt env a = (s, .error e) := by
  unfold adopt
  split
  · exact ⟨_, rfl⟩
  next o ho =>
    split
    · exact ⟨_, rfl⟩
    next id hid =>
      split
      next hany => exact absurd ⟨o, id, ho, hid, Or.inl ((mem_ids_iff s id).mpr hany)⟩ h
      · split
        · exact ⟨_, rfl⟩
        next f hf => exact absurd ⟨o, id, ho, hid, Or.inr ⟨f, hf⟩⟩ h

theorem adoptAll_of_acceptable (artifacts : List Json) (h : AllAcceptable env s.ids artifacts) :
    ∃ s', s.adoptAll env artifacts = (s', .ok (artifacts.filterMap idOf)) ∧
      Adopted s s' (artifacts.filterMap idOf) := by
  induction artifacts generalizing s with
  | nil => exact ⟨s, rfl, .nil s⟩
  | cons a rest ih =>
    obtain ⟨ha, hrest⟩ := h
    obtain ⟨s₁, id, hid, hadopt, hadopted⟩ := adopt_of_acceptable env s a ha
    rw [hid, Option.toList_some] at hrest
    obtain ⟨s₂, hall, hmore⟩ :=
      ih s₁ ((AllAcceptable.congr env _ _ (hadopted.mem_ids_iff s s₁ [id]) rest).mpr hrest)
    rw [List.filterMap_cons_some hid]
    refine ⟨s₂, ?_, hadopted.cons s s₁ s₂ id _ hmore⟩
    rw [adoptAll, hadopt]
    dsimp only
    rw [hall]

theorem adoptAll_append_error (before after : List Json) (a : Json) (hbefore : AllAcceptable env s.ids before)
    (ha : ¬ Acceptable env (s.ids ++ before.filterMap idOf) a) :
    ∃ s' e, s.adoptAll env (before ++ a :: after) =
      (s', .error e) ∧ Adopted s s' (before.filterMap idOf) := by
  induction before generalizing s with
  | nil =>
    rw [List.filterMap_nil, List.append_nil] at ha
    obtain ⟨e, he⟩ := adopt_of_not_acceptable env s a ha
    refine ⟨s, e, ?_, .nil s⟩
    rw [List.nil_append, adoptAll, he]
  | cons b rest ih =>
    obtain ⟨hb, hrest⟩ := hbefore
    obtain ⟨s₁, id, hid, hadopt, hadopted⟩ := adopt_of_acceptable env s b hb
    have hmem := hadopted.mem_ids_iff s s₁ [id]
    rw [hid, Option.toList_some] at hrest
    rw [List.filterMap_cons_some hid] at ha ⊢
    have ha' : ¬ Acceptable env (s₁.ids ++ rest.filterMap idOf) a := by
      rw [Acceptable.congr env _ (s.ids ++ id :: rest.filterMap idOf)]
      · exact ha
      · intro id'
        rw [List.mem_append, hmem, List.mem_append, List.mem_append, List.mem_singleton,
          List.mem_cons, or_assoc]
    obtain ⟨s₂, e, hall, hmore⟩ := ih s₁ ((AllAcceptable.congr env _ _ hmem rest).mpr hrest) ha'
    refine ⟨s₂, e, ?_, hadopted.cons s s₁ s₂ id _ hmore⟩
    rw [List.cons_append, adoptAll, hadopt]
    dsimp only
    rw [hall]

theorem exists_refused (known : List String) (artifacts : List Json)
    (h : ¬ AllAcceptable env known artifacts) : ∃ before a after, artifacts = before ++ a :: after ∧
      AllAcceptable env known before ∧ ¬ Acceptable env (known ++ before.filterMap idOf) a := by
  induction artifacts generalizing known with
  | nil => exact absurd trivial h
  | cons a rest ih =>
    by_cases ha : Acceptable env known a
    · have hrest : ¬ AllAcceptable env (known ++ (idOf a).toList) rest := fun hrest => h ⟨ha, hrest⟩
      obtain ⟨before, b, after, rfl, hbefore, hb⟩ := ih _ hrest
      refine ⟨a :: before, b, after, rfl, ⟨ha, hbefore⟩, ?_⟩
      obtain ⟨o, id, ho, hid, -⟩ := ha
      have hidOf := idOf_eq_some a o id ho hid
      rw [hidOf, Option.toList_some, List.append_assoc, List.singleton_append] at hb
      rwa [List.filterMap_cons_some hidOf]
    · refine ⟨[], a, rest, rfl, trivial, ?_⟩
      rwa [List.filterMap_nil, List.append_nil]

theorem ingestTask_of_error (task : Json) (s' : TaskAssembly) (e : PartError)
    (h : s.adoptAll env (artifactsOf task) = (s', .error e)) : s.ingestTask env task = (s', .error e) := by
  unfold ingestTask
  rw [h]

theorem ingestTask_error_iff (task : Json) :
    (∃ e, (s.ingestTask env task).2 = .error e) ↔ ¬ AllAcceptable env s.ids (artifactsOf task) := by
  constructor
  · rintro ⟨e, he⟩ hall
    obtain ⟨s', hadopt, -⟩ := adoptAll_of_acceptable env s _ hall
    unfold ingestTask at he
    rw [hadopt] at he
    dsimp only at he
    split at he
    · cases he
    · cases he
  · intro h
    obtain ⟨before, a, after, hsplit, hbefore, ha⟩ := exists_refused env _ _ h
    obtain ⟨s', e, hadopt, -⟩ := adoptAll_append_error env s before after a hbefore ha
    rw [← hsplit] at hadopt
    exact ⟨e, by rw [ingestTask_of_error env s task s' e hadopt]⟩

theorem ingestTask_atomic_iff (task : Json) :
    (∀ e, (s.ingestTask env task).2 = .error e → (s.ingestTask env task).1 = s) ↔
      ∀ before a after, artifactsOf task = before ++ a :: after → AllAcceptable env s.ids before →
        ¬ Acceptable env (s.ids ++ before.filterMap idOf) a → ∀ id ∈ before.filterMap idOf, id ∈ s.ids := by
  constructor
  · intro h before a after hsplit hbefore ha
    obtain ⟨s', e, hadopt, hadopted⟩ := adoptAll_append_error env s before after a hbefore ha
    rw [← hsplit] at hadopt
    have hresult := ingestTask_of_error env s task s' e hadopt
    have heq := h e (by rw [hresult])
    rw [hresult] at heq
    exact (hadopted.eq_iff s s' _).mp heq
  · intro h e he
    obtain ⟨before, a, after, hsplit, hbefore, ha⟩ :=
      exists_refused env _ _ ((ingestTask_error_iff env s task).mp ⟨e, he⟩)
    obtain ⟨s', e', hadopt, hadopted⟩ := adoptAll_append_error env s before after a hbefore ha
    rw [← hsplit] at hadopt
    rw [ingestTask_of_error env s task s' e' hadopt]
    exact (hadopted.eq_iff s s' _).mpr (h before a after hsplit hbefore ha)

end Adopt

section Complete

variable (s : TaskAssembly)

def markComplete (e : Entry) : Entry := { e with complete := true }

theorem mem_ids_iff_entry (id : String) : id ∈ s.ids ↔ ∃ e, s.entry id = some e := by
  rw [mem_ids_iff, entry, ← Option.isSome_iff_exists, List.find?_isSome, List.any_eq_true]

theorem entry_updateEntry (id k : String) (f : Entry → Entry)
    (hf : ∀ e, (f e).art.artifactId = e.art.artifactId) (entries : List Entry)
    (hheld : id ∈ entries.map (·.art.artifactId)) :
    (updateEntry id f entries).find? (fun e => e.art.artifactId = k) =
      if k = id then (entries.find? (fun e => e.art.artifactId = k)).map f
      else entries.find? (fun e => e.art.artifactId = k) := by
  induction entries with
  | nil => cases hheld
  | cons e rest ih =>
    rw [updateEntry]
    by_cases he : e.art.artifactId = id
    · rw [if_pos he, List.find?_cons, List.find?_cons, hf, he]
      by_cases hk : k = id
      · rw [if_pos hk, decide_eq_true hk.symm]
        rfl
      · rw [if_neg hk, decide_eq_false (fun h => hk h.symm)]
    · have hrest : id ∈ rest.map (·.art.artifactId) := by
        rw [List.map_cons, List.mem_cons] at hheld
        exact hheld.resolve_left (fun h => he h.symm)
      rw [if_neg he, List.find?_cons, List.find?_cons, ih hrest]
      by_cases hek : e.art.artifactId = k
      · have hk : k ≠ id := fun h => he (hek.trans h)
        simp only [if_neg hk]
      · simp only [decide_eq_false hek]

theorem artifacts_updateEntry (id : String) (f : Entry → Entry) (hf : ∀ e, (f e).art = e.art)
    (entries : List Entry) (hheld : id ∈ entries.map (·.art.artifactId)) :
    (updateEntry id f entries).map (·.art) = entries.map (·.art) := by
  induction entries with
  | nil => cases hheld
  | cons e rest ih =>
    rw [updateEntry]
    split
    · rw [List.map_cons, List.map_cons, hf]
    next he =>
      rw [List.map_cons, List.mem_cons] at hheld
      rw [List.map_cons, List.map_cons, ih (hheld.resolve_left (fun h => he h.symm))]

structure Completes (present : List String) (s' : TaskAssembly) (done : List String) : Prop where
  order : done.Sublist present
  once : done.Nodup
  exactly : ∀ id, id ∈ done ↔ id ∈ present ∧ ¬ (s.entry id).any (·.complete) = true
  entry : ∀ id, s'.entry id = if id ∈ done then (s.entry id).map markComplete else s.entry id
  artifacts : s'.artifacts = s.artifacts

theorem completeAll_completes (present : List String) (hheld : ∀ id ∈ present, id ∈ s.ids) :
    Completes s present (s.completeAll present).1 (s.completeAll present).2 := by
  induction present generalizing s with
  | nil => exact ⟨.slnil, .nil, by simp [completeAll], by simp [completeAll], rfl⟩
  | cons id rest ih =>
    obtain ⟨hid, hrest⟩ := List.forall_mem_cons.mp hheld
    unfold completeAll
    split
    next hcomplete =>
      have h := ih s hrest
      refine ⟨h.order.cons id, h.once, ?_, h.entry, h.artifacts⟩
      intro k
      rw [h.exactly, List.mem_cons]
      constructor
      · rintro ⟨hk, hopen⟩
        exact ⟨Or.inr hk, hopen⟩
      · rintro ⟨rfl | hk, hopen⟩
        · exact absurd hcomplete hopen
        · exact ⟨hk, hopen⟩
    next hopen =>
      change Completes s (id :: rest) ((s.update id markComplete).completeAll rest).1
        (id :: ((s.update id markComplete).completeAll rest).2)
      have hentry (k : String) : (s.update id markComplete).entry k =
          if k = id then (s.entry k).map markComplete else s.entry k :=
        entry_updateEntry id k markComplete (fun _ => rfl) s.entries hid
      have harts : (s.update id markComplete).artifacts = s.artifacts :=
        artifacts_updateEntry id markComplete (fun _ => rfl) s.entries hid
      have hids : (s.update id markComplete).ids = s.ids := by
        have h := congrArg (List.map AssembledArtifact.artifactId) harts
        simpa [TaskAssembly.artifacts, ids, Function.comp_def] using h
      have h := ih (s.update id markComplete) (by rw [hids]; exact hrest)
      have hmarked : ((s.update id markComplete).entry id).any (·.complete) = true := by
        obtain ⟨e, he⟩ := (mem_ids_iff_entry s id).mp hid
        rw [hentry, if_pos rfl, he]
        rfl
      have hfresh : id ∉ ((s.update id markComplete).completeAll rest).2 :=
        fun hmem => ((h.exactly id).mp hmem).2 hmarked
      refine ⟨h.order.cons_cons id, List.nodup_cons.mpr ⟨hfresh, h.once⟩, ?_, ?_, h.artifacts.trans harts⟩
      · intro k
        rw [List.mem_cons, h.exactly, hentry, List.mem_cons]
        by_cases hk : k = id
        · subst hk
          simpa using hopen
        · rw [if_neg hk]
          simp [hk]
      · intro k
        rw [h.entry, hentry]
        by_cases hk : k = id
        · rw [if_pos hk, if_neg (hk ▸ hfresh), if_pos (List.mem_cons.mpr (Or.inl hk))]
        · rw [if_neg hk]
          simp only [List.mem_cons, hk, false_or]

end Complete

section FailedIngest

variable (env : A2aEnv) (s : TaskAssembly)

theorem Adopted.entry_of_mem (s' : TaskAssembly) (listed : List String)
    (h : Adopted s s' listed) (id : String) (hid : id ∈ s.ids) : s'.entry id = s.entry id := by
  obtain ⟨added, rfl, -, -⟩ := h
  obtain ⟨e, he⟩ := (mem_ids_iff_entry s id).mp hid
  rw [he]
  change (s.entries ++ added).find? _ = some e
  rw [List.find?_append, show s.entries.find? _ = some e from he]
  rfl

theorem entry_eq_none (id : String) (h : id ∉ s.ids) : s.entry id = none := by
  rw [Option.eq_none_iff_forall_not_mem]
  exact fun e he => h ((mem_ids_iff_entry s id).mpr ⟨e, he⟩)

theorem Adopted.entry_of_not_mem (s' : TaskAssembly) (listed : List String)
    (h : Adopted s s' listed) (id : String) (hid : id ∉ s.ids) : ¬ (s'.entry id).any (·.complete) = true := by
  have hnone : s.entries.find? (fun e => e.art.artifactId = id) = none := entry_eq_none s id hid
  obtain ⟨added, rfl, hadded, -⟩ := h
  change ¬ ((s.entries ++ added).find? (fun e => e.art.artifactId = id)).any (·.complete) = true
  rw [List.find?_append, hnone, Option.none_or]
  cases hfind : added.find? (fun e => e.art.artifactId = id) with
  | none => simp
  | some e =>
    rw [Option.any_some, (hadded e (List.mem_of_find?_eq_some hfind)).1]
    exact Bool.false_ne_true

structure CompletesListed (listed : List String) (s' : TaskAssembly) (done : List String) : Prop where
  order : done.Sublist listed
  once : done.Nodup
  exactly : ∀ id, id ∈ done ↔ id ∈ listed ∧ ¬ (s.entry id).any (·.complete) = true
  complete : ∀ id ∈ done, ∃ e, s'.entry id = some e ∧ e.complete = true
  held : ∀ id ∈ done, ∀ e, s.entry id = some e → s'.entry id = some { e with complete := true }
  others : ∀ id, id ∉ done → s'.entry id = s.entry id
  artifacts : s.artifacts <+: s'.artifacts

theorem completesListed_of_steps (s₁ s' : TaskAssembly) (listed done : List String)
    (hadopted : Adopted s s₁ listed) (h : Completes s₁ listed s' done) :
    CompletesListed s listed s' done := by
  have hheld (id : String) (hid : id ∈ s.ids) : s₁.entry id = s.entry id :=
    hadopted.entry_of_mem s s₁ listed id hid
  have hopen (id : String) : (s₁.entry id).any (·.complete) = true ↔
      (s.entry id).any (·.complete) = true := by
    by_cases hid : id ∈ s.ids
    · rw [hheld id hid]
    · rw [entry_eq_none s id hid]
      simpa using hadopted.entry_of_not_mem s s₁ listed id hid
  have hexactly (id : String) : id ∈ done ↔ id ∈ listed ∧ ¬ (s.entry id).any (·.complete) = true := by
    rw [h.exactly, hopen]
  refine ⟨h.order, h.once, hexactly, ?_, ?_, ?_, ?_⟩
  · intro id hid
    have hmem : id ∈ s₁.ids :=
      (hadopted.mem_ids_iff s s₁ listed id).mpr (List.mem_append_right _ ((h.exactly id).mp hid).1)
    obtain ⟨e, he⟩ := (mem_ids_iff_entry s₁ id).mp hmem
    exact ⟨markComplete e, by rw [h.entry, if_pos hid, he, Option.map_some], rfl⟩
  · intro id hid e he
    rw [h.entry, if_pos hid, hheld id ((mem_ids_iff_entry s id).mpr ⟨e, he⟩), he, Option.map_some]
    rfl
  · intro id hid
    rw [h.entry, if_neg hid]
    by_cases hmem : id ∈ s.ids
    · exact hheld id hmem
    · -- an artifact that is listed and not held would have been completed
      have hlisted : id ∉ listed := by
        intro hlisted
        refine hid ((hexactly id).mpr ⟨hlisted, ?_⟩)
        rw [entry_eq_none s id hmem]
        exact Bool.false_ne_true
      have hmem₁ : id ∉ s₁.ids := by
        rw [hadopted.mem_ids_iff s s₁ listed, List.mem_append, not_or]
        exact ⟨hmem, hlisted⟩
      rw [entry_eq_none s id hmem, entry_eq_none s₁ id hmem₁]
  · rw [h.artifacts]
    obtain ⟨added, rfl, -, -⟩ := hadopted
    refine ⟨added.map Entry.art, ?_⟩
    exact (List.map_append).symm

theorem ingestTask_terminal (task : Json) (done : List String) (h : (s.ingestTask env task).2 = .ok done)
    (hterminal : isTerminal (stateOf task) = true) :
    CompletesListed s ((artifactsOf task).filterMap idOf) (s.ingestTask env task).1 done := by
  have hall : AllAcceptable env s.ids (artifactsOf task) := by
    by_contra hall
    obtain ⟨e, he⟩ := (ingestTask_error_iff env s task).mpr hall
    rw [h] at he
    cases he
  obtain ⟨s₁, hadopt, hadopted⟩ := adoptAll_of_acceptable env s _ hall
  have hcompletes := completeAll_completes s₁ _
    (fun id hid => (hadopted.mem_ids_iff s s₁ _ id).mpr (List.mem_append_right _ hid))
  have hresult : s.ingestTask env task = ((s₁.completeAll ((artifactsOf task).filterMap idOf)).1,
      .ok (s₁.completeAll ((artifactsOf task).filterMap idOf)).2) := by
    unfold ingestTask
    rw [hadopt]
    dsimp only
    rw [if_neg (not_not.mpr hterminal)]
  rw [hresult] at h ⊢
  rw [← Except.ok.inj h]
  exact completesListed_of_steps s s₁ _ _ _ hadopted hcompletes

/-- A refused chunk changes nothing; a refused snapshot changes nothing exactly when no artifact that the
assembly does not hold precedes the refused entry; a terminal snapshot completes what it lists. -/
theorem failed_ingest_unchanged_iff :
    (∀ chunk e, (s.ingestChunk env chunk).2 = .error e → (s.ingestChunk env chunk).1 = s) ∧
      ∀ task,
        ((∀ e, (s.ingestTask env task).2 = .error e → (s.ingestTask env task).1 = s) ↔
          ∀ before a after, artifactsOf task = before ++ a :: after → AllAcceptable env s.ids before →
            ¬ Acceptable env (s.ids ++ before.filterMap idOf) a → ∀ id ∈ before.filterMap idOf, id ∈ s.ids) ∧
        ∀ done, (s.ingestTask env task).2 = .ok done → isTerminal (stateOf task) = true →
          CompletesListed s ((artifactsOf task).filterMap idOf) (s.ingestTask env task).1 done := by
  refine ⟨?_, fun task => ⟨ingestTask_atomic_iff env s task, ingestTask_terminal env s task⟩⟩
  intro chunk e h
  unfold ingestChunk at h ⊢
  split at h
  · rfl
  · cases h

end FailedIngest

def brokenSnapshot : Json := .obj [("artifacts", .arr [.obj [("artifactId", .str "a1")], .num (.posInt 7)])]

theorem broken_snapshot_adopts :
    (new "t1" "c1").ingestTask helloEnv brokenSnapshot =
        (⟨"t1", "c1", [⟨.new "a1", false⟩]⟩, .error ⟨"a Task artifact is not an object"⟩) ∧
      ((new "t1" "c1").ingestTask helloEnv brokenSnapshot).1 ≠ new "t1" "c1" :=
  ⟨rfl, by decide⟩

end Acdp.A2a.TaskAssembly
