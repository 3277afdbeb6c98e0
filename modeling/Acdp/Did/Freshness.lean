import Acdp.Did.Web

namespace Acdp.Did

open Acdp.Types
open Acdp.Foundation (Lru)

def Call.since (call : Call) : Option ℕ := call.untilArgs.map (·.1)

def Phase.copy : Phase → Option ServedDocument
  | .answered _ served => some served
  | .storing _ resolved => some resolved.served
  | _ => none

def Event.started : Event → Option (ℕ × Call)
  | .start id call => some (id, call)
  | _ => none

def startedCalls (events : List Event) : List (ℕ × Call) := events.filterMap Event.started

/-- What callers and schedule see to: no operation on a DID takes a `since` between the host's answer to a
fetch of it and the stamp of that copy; a forced re-fetch is answered at or after the `since` of its own
call; and the host answers no fetch of a DID while another has its copy still to store. -/
def scheduled (resolver : WebResolver) (calls : List (ℕ × Call)) (s : ResolverState) : Event → Bool
  | .tick => true
  | .start _ _ => true
  | .advance id =>
    match s.tasks id with
    | some ⟨call, .answered _ served⟩ => calls.all (fun p => p.2.did != call.did ||
        p.2.since.all (fun since => since ≤ served.servedAt || s.clock < since))
    | _ => true
  | .answer id response =>
    match s.tasks id, readResponse resolver.env response with
    | some ⟨call, .waiting forced⟩, .ok _ => (!forced || call.since.all (fun since => since ≤ s.clock)) &&
        calls.all (fun p => (s.tasks p.1).all (fun task => task.call.did != call.did ||
        task.phase.copy.isNone))
    | _, _ => true

def scheduledRun (resolver : WebResolver) (calls : List (ℕ × Call)) : ResolverState → List Event → Bool
  | _, [] => true
  | s, event :: rest =>
    scheduled resolver calls s event && scheduledRun resolver calls (step resolver event s) rest

/-- What an outcome says of the host's answers. -/
def Outcome.Honest (answers : List HostAnswer) (call : Call) : Outcome → Prop
  | .fresh resolution => ∀ since, call.since = some since → resolution.fresh = true →
      ∃ a ∈ answers, a.did = call.did ∧ a.served.document = resolution.served.document ∧
      since ≤ a.served.servedAt
  | .absent e _ => ∀ did fragment since, call = .resolveWithFragment did fragment since →
      e = absentFragment did fragment true →
      ∃ a ∈ answers, a.did = did ∧ a.served.document.findByFragment fragment = none ∧
      since ≤ a.served.servedAt
  | _ => True

def Timely (answers : List HostAnswer) (call : Call) (served : ServedDocument) : Prop :=
  ⟨call.did, served⟩ ∈ answers ∧ ∀ since, call.since = some since → since ≤ served.servedAt

/-- For every call of the DID the copy is as new as its stamp says. -/
def Stamped (calls : List (ℕ × Call)) (did : String) (served : ServedDocument) (stamp : ℕ) : Prop :=
  ∀ p ∈ calls, p.2.did = did → ∀ since, p.2.since = some since → since ≤ stamp → since ≤ served.servedAt

def PhaseOk (calls : List (ℕ × Call)) (answers : List HostAnswer) (call : Call) : Phase → Prop
  | .answered forced served => ⟨call.did, served⟩ ∈ answers ∧ (forced = true → Timely answers call served)
  | .storing forced resolved => ⟨call.did, resolved.served⟩ ∈ answers ∧
      Stamped calls call.did resolved.served resolved.fetchedAt ∧
      (forced = true → Timely answers call resolved.served)
  | .done outcome => outcome.Honest answers call
  | _ => True

structure Inv (calls : List (ℕ × Call)) (s : ResolverState) : Prop where
  started : ∀ id task, s.tasks id = some task → (id, task.call) ∈ calls
  cache : ∀ did entry, s.cache.peek did = some entry →
    ⟨did, entry.served⟩ ∈ s.answers ∧ Stamped calls did entry.served entry.cachedAt
  phase : ∀ id task, s.tasks id = some task → PhaseOk calls s.answers task.call task.phase

def Holds (s : ResolverState) (id : ℕ) (call : Call) (served : ServedDocument) : Prop :=
  ∃ phase, s.tasks id = some ⟨call, phase⟩ ∧ phase.copy = some served

/-- At most one task has a copy of a DID to store, and it is no older than the cached one. -/
structure Ordered (s : ResolverState) : Prop where
  clock : ∀ a ∈ s.answers, a.served.servedAt ≤ s.clock
  alone : ∀ id call served id' call' served', Holds s id call served → Holds s id' call' served' →
    call.did = call'.did → id = id'
  newer : ∀ id call served entry, Holds s id call served → s.cache.peek call.did = some entry →
    entry.served.servedAt ≤ served.servedAt

theorem Honest.mono {answers answers' : List HostAnswer} (h : answers ⊆ answers') {call : Call}
    {outcome : Outcome} (hhonest : outcome.Honest answers call) : outcome.Honest answers' call := by
  cases outcome with
  | fresh resolution =>
    intro since hsince hfresh
    obtain ⟨a, ha, hrest⟩ := hhonest since hsince hfresh
    exact ⟨a, h ha, hrest⟩
  | absent e checked =>
    intro did fragment since hcall he
    obtain ⟨a, ha, hrest⟩ := hhonest did fragment since hcall he
    exact ⟨a, h ha, hrest⟩
  | document served => trivial
  | failed e => trivial
  | invalidated => trivial

theorem PhaseOk.mono {calls : List (ℕ × Call)} {answers answers' : List HostAnswer} (h : answers ⊆ answers')
    {call : Call} {phase : Phase} (hphase : PhaseOk calls answers call phase) :
    PhaseOk calls answers' call phase := by
  cases phase with
  | answered forced served =>
    exact ⟨h hphase.1, fun hforced => ⟨h hphase.1, (hphase.2 hforced).2⟩⟩
  | storing forced resolved =>
    exact ⟨h hphase.1, hphase.2.1, fun hforced => ⟨h hphase.1, (hphase.2.2 hforced).2⟩⟩
  | done outcome => exact Honest.mono h hphase
  | checking => trivial
  | rechecking first => trivial
  | claiming first => trivial
  | requesting forced => trivial
  | waiting forced => trivial
  | dropping => trivial

theorem conclude_honest (answers : List HostAnswer) (call : Call) (resolution : FreshResolution)
    (h : resolution.fresh = true → Timely answers call resolution.served) :
    (call.conclude resolution).Honest answers call := by
  have hfresh : Outcome.Honest answers call (.fresh resolution) := by
    intro since hsince hfresh
    obtain ⟨hmem, htimely⟩ := h hfresh
    exact ⟨_, hmem, rfl, rfl, htimely since hsince⟩
  cases call with
  | resolveWithFragment did fragment since =>
    rw [Call.conclude]
    split
    · trivial
    · next habsent =>
      intro did' fragment' since' hcall he
      cases hcall
      cases hflag : resolution.fresh with
      | true =>
        obtain ⟨hmem, htimely⟩ := h hflag
        exact ⟨_, hmem, rfl, Option.not_isSome_iff_eq_none.mp habsent, htimely since rfl⟩
      | false =>
        rw [hflag, absentFragment, absentFragment] at he
        cases he
  | resolve did => exact hfresh
  | resolveFresh did => exact hfresh
  | resolveUntil did since accept => exact hfresh
  | invalidate did => exact hfresh

theorem afterTracked_ok (calls : List (ℕ × Call)) (answers : List HostAnswer) (call : Call)
    (first : ResolvedDidDocument) (hmem : ⟨call.did, first.served⟩ ∈ answers)
    (hstamp : ∀ since, call.since = some since → since ≤ first.fetchedAt → since ≤ first.served.servedAt) :
    PhaseOk calls answers call (call.afterTracked first) := by
  rw [Call.afterTracked]
  cases hargs : call.untilArgs with
  | none => trivial
  | some args =>
    obtain ⟨since, accept⟩ := args
    have hsince : call.since = some since := by rw [Call.since, hargs]; rfl
    dsimp only
    split
    · refine conclude_honest answers call _ ?_
      intro hfresh
      refine ⟨hmem, ?_⟩
      intro since' hsince'
      rw [hsince] at hsince'
      cases hsince'
      exact hstamp since hsince (of_decide_eq_true hfresh)
    · trivial

theorem afterTracked_copy (call : Call) (first : ResolvedDidDocument) :
    (call.afterTracked first).copy = none := by
  rw [Call.afterTracked]
  split
  · rfl
  · split <;> rfl

theorem afterForced_ok (calls : List (ℕ × Call)) (answers : List HostAnswer) (call : Call)
    (resolved : ResolvedDidDocument) (h : Timely answers call resolved.served) :
    PhaseOk calls answers call (call.afterForced resolved) := by
  rw [Call.afterForced]
  split
  · trivial
  · exact conclude_honest answers call _ (fun _ => h)

theorem afterForced_copy (call : Call) (resolved : ResolvedDidDocument) :
    (call.afterForced resolved).copy = none := by
  rw [Call.afterForced]
  split <;> rfl

section Advance

variable (resolver : WebResolver) (s : ResolverState) (id : ℕ) (call : Call)

@[simp]
theorem setPhase_cache (phase : Phase) : (s.setPhase id call phase).cache = s.cache := rfl

theorem tryClaimForced_frame (did : String) :
    (tryClaimForced resolver s did).2.clock = s.clock ∧ (tryClaimForced resolver s did).2.cache = s.cache ∧
      (tryClaimForced resolver s did).2.answers = s.answers ∧
      (tryClaimForced resolver s did).2.tasks = s.tasks := by
  rw [tryClaimForced]
  split
  · exact ⟨rfl, rfl, rfl, rfl⟩
  · exact ⟨rfl, rfl, rfl, rfl⟩

inductive CacheEffect (phase : Phase) (cache : Lru String CacheEntry) : Prop where
  | kept (h : ∀ did, cache.peek did = s.cache.peek did)
  | stored (forced : Bool) (resolved : ResolvedDidDocument) (hphase : phase = .storing forced resolved)
      (h : cache = s.cache.put call.did ⟨resolved.served, resolved.fetchedAt⟩)
  | dropped (h : cache = s.cache.pop call.did)

structure Advanced (calls : List (ℕ × Call)) (phase : Phase) (s' : ResolverState) : Prop where
  clock : s'.clock = s.clock
  answers : s'.answers = s.answers
  cache : CacheEffect s call phase s'.cache
  tasks : ∃ phase', s'.tasks = Function.update s.tasks id (some ⟨call, phase'⟩) ∧
    PhaseOk calls s.answers call phase' ∧
    ∀ served, phase'.copy = some served → ∃ forced, phase = .answered forced served

variable {resolver s id call} {calls : List (ℕ × Call)}

theorem Advanced.idle (phase : Phase) (htask : s.tasks id = some ⟨call, phase⟩)
    (hphase : PhaseOk calls s.answers call phase) (hcopy : phase.copy = none) :
    Advanced s id call calls phase s := by
  refine ⟨rfl, rfl, .kept (fun _ => rfl), phase, ?_, hphase, by simp [hcopy]⟩
  rw [← htask, Function.update_eq_self]

theorem Advanced.look (phase phase' : Phase) (hphase : PhaseOk calls s.answers call phase')
    (hcopy : phase'.copy = none) :
    Advanced s id call calls phase ({ s with cache := s.cache.promote call.did }.setPhase id call phase') :=
  ⟨rfl, rfl, .kept (fun did => Lru.peek_promote s.cache did call.did), phase', rfl, hphase, by simp [hcopy]⟩

theorem Advanced.move (phase phase' : Phase) (hphase : PhaseOk calls s.answers call phase')
    (hcopy : phase'.copy = none) : Advanced s id call calls phase (s.setPhase id call phase') :=
  ⟨rfl, rfl, .kept (fun _ => rfl), phase', rfl, hphase, by simp [hcopy]⟩

theorem Advanced.claim (phase phase' : Phase) (hphase : PhaseOk calls s.answers call phase')
    (hcopy : phase'.copy = none) :
    Advanced s id call calls phase ((tryClaimForced resolver s call.did).2.setPhase id call phase') := by
  obtain ⟨hclock, hcache, hanswers, htasks⟩ := tryClaimForced_frame resolver s call.did
  refine ⟨hclock, hanswers, .kept (fun did => ?_), phase', ?_, hphase, by simp [hcopy]⟩
  · rw [setPhase_cache, hcache]
  · rw [ResolverState.setPhase, htasks]

theorem stamped_of_scheduled (forced : Bool) (served : ServedDocument)
    (htask : s.tasks id = some ⟨call, .answered forced served⟩)
    (hsched : scheduled resolver calls s (.advance id) = true) : Stamped calls call.did served s.clock := by
  rw [scheduled, htask] at hsched
  intro p hp hdid since hsince hstamp
  have hcall := List.all_eq_true.mp hsched p hp
  rw [hdid, bne_self_eq_false, Bool.false_or, hsince, Option.all_some, Bool.or_eq_true, decide_eq_true_eq,
    decide_eq_true_eq] at hcall
  omega

theorem advance_spec (hinv : Inv calls s) (phase : Phase) (htask : s.tasks id = some ⟨call, phase⟩)
    (hsched : scheduled resolver calls s (.advance id) = true) :
    Advanced s id call calls phase (advance resolver s id ⟨call, phase⟩) := by
  have hphase := hinv.phase id _ htask
  have hcall := hinv.started id _ htask
  cases phase with
  | checking =>
    rw [advance]
    cases hpeek : s.cache.peek call.did with
    | none => exact .look _ _ trivial rfl
    | some entry =>
      obtain ⟨hmem, hstamped⟩ := hinv.cache _ _ hpeek
      dsimp only
      split
      · refine .look _ _ (afterTracked_ok calls s.answers call _ hmem ?_) (afterTracked_copy _ _)
        exact hstamped _ hcall rfl
      · exact .look _ _ trivial rfl
  | rechecking first =>
    rw [advance]
    dsimp only
    split
    · next since accept entry hargs hpeek =>
      obtain ⟨hmem, hstamped⟩ := hinv.cache _ _ hpeek
      split
      · next hnewer =>
        have hsince : call.since = some since := by rw [Call.since, hargs]; rfl
        refine .look _ _ (conclude_honest s.answers call _ (fun _ => ⟨hmem, ?_⟩)) rfl
        intro since' hsince'
        rw [hsince] at hsince'
        cases hsince'
        exact hstamped _ hcall rfl since hsince hnewer.1
      · exact .look _ _ trivial rfl
    · exact .look _ _ trivial rfl
  | claiming first =>
    rw [advance]
    dsimp only
    split
    · exact .claim _ _ trivial rfl
    · cases first with
      | none => exact .claim _ _ trivial rfl
      | some first =>
        refine .claim _ _ (conclude_honest s.answers call _ ?_) rfl
        intro hfresh
        cases hfresh
  | requesting forced =>
    rw [advance]
    dsimp only
    split
    · exact .move _ _ trivial rfl
    · exact .move _ _ trivial rfl
  | waiting forced => exact .idle _ htask hphase rfl
  | answered forced served =>
    refine ⟨rfl, rfl, .kept (fun _ => rfl), _, rfl, ?_, ?_⟩
    · exact ⟨hphase.1, stamped_of_scheduled forced served htask hsched, hphase.2⟩
    · intro served' hcopy
      have hsame : served = served' := Option.some.inj hcopy
      exact ⟨forced, by rw [hsame]⟩
  | storing forced resolved =>
    obtain ⟨hmem, hstamped, hforced⟩ := hphase
    refine ⟨rfl, rfl, .stored forced resolved rfl rfl, _, rfl, ?_, ?_⟩
    · cases forced with
      | true => exact afterForced_ok calls s.answers call resolved (hforced rfl)
      | false => exact afterTracked_ok calls s.answers call resolved hmem (hstamped _ hcall rfl)
    · intro served hcopy
      cases forced with
      | true => exact absurd hcopy (by simp [afterForced_copy])
      | false => exact absurd hcopy (by simp [afterTracked_copy])
  | dropping => exact ⟨rfl, rfl, .dropped rfl, _, rfl, trivial, by simp [Phase.copy]⟩
  | done outcome => exact .idle _ htask hphase rfl

theorem CacheEffect.source {phase : Phase} {cache : Lru String CacheEntry}
    (h : CacheEffect s call phase cache) (did : String) (entry : CacheEntry)
    (hpeek : cache.peek did = some entry) :
    s.cache.peek did = some entry ∨ did = call.did ∧ ∃ forced resolved, phase = .storing forced resolved ∧
      entry = ⟨resolved.served, resolved.fetchedAt⟩ := by
  cases h with
  | kept hkept =>
    rw [hkept] at hpeek
    exact .inl hpeek
  | stored forced resolved hphase hcache =>
    rw [hcache] at hpeek
    rcases Lru.peek_put _ _ _ _ _ hpeek with ⟨hdid, hentry⟩ | ⟨-, hold⟩
    · exact .inr ⟨hdid, forced, resolved, hphase, hentry⟩
    · exact .inl hold
  | dropped hcache =>
    rw [hcache] at hpeek
    by_cases hdid : did = call.did
    · rw [hdid, Lru.peek_pop_self] at hpeek
      cases hpeek
    · rw [Lru.peek_pop_ne _ _ _ hdid] at hpeek
      exact .inl hpeek

end Advance

theorem Inv.update {calls : List (ℕ × Call)} {s s' : ResolverState} (hinv : Inv calls s)
    (hanswers : s.answers ⊆ s'.answers)
    (hcache : ∀ did entry, s'.cache.peek did = some entry →
      ⟨did, entry.served⟩ ∈ s'.answers ∧ Stamped calls did entry.served entry.cachedAt)
    (id : ℕ) (task : Task) (htasks : s'.tasks = Function.update s.tasks id (some task))
    (hstarted : (id, task.call) ∈ calls) (hphase : PhaseOk calls s'.answers task.call task.phase) :
    Inv calls s' := by
  have hother : ∀ id' task', s'.tasks id' = some task' → id' = id ∧ task' = task ∨
      s.tasks id' = some task' := by
    intro id' task' h
    rw [htasks, Function.update_apply] at h
    split at h
    · next hid => exact .inl ⟨hid, (Option.some.inj h).symm⟩
    · exact .inr h
  refine ⟨?_, hcache, ?_⟩
  · intro id' task' h
    rcases hother id' task' h with ⟨rfl, rfl⟩ | hold
    · exact hstarted
    · exact hinv.started id' task' hold
  · intro id' task' h
    rcases hother id' task' h with ⟨-, rfl⟩ | hold
    · exact hphase
    · exact (hinv.phase id' task' hold).mono hanswers

theorem start_ok (calls : List (ℕ × Call)) (answers : List HostAnswer) (call : Call) :
    PhaseOk calls answers call call.start := by
  cases call <;> trivial

theorem start_copy (call : Call) : call.start.copy = none := by
  cases call <;> rfl

section Step

variable (resolver : WebResolver) (calls : List (ℕ × Call)) (s : ResolverState) (event : Event)

theorem step_inv (hinv : Inv calls s) (hstarted : ∀ p ∈ event.started, p ∈ calls)
    (hsched : scheduled resolver calls s event = true) : Inv calls (step resolver event s) := by
  cases event with
  | tick => exact ⟨hinv.started, hinv.cache, hinv.phase⟩
  | start id call =>
    rw [step]
    split
    · exact hinv.update (List.Subset.refl _) hinv.cache id _ rfl (hstarted _ rfl) (start_ok _ _ call)
    · exact hinv
  | advance id =>
    rw [step]
    split
    · next task htask =>
      obtain ⟨call, phase⟩ := task
      have hcall : (id, call) ∈ calls := hinv.started id _ htask
      have hadvanced := advance_spec hinv phase htask hsched
      obtain ⟨phase', htasks, hphase, -⟩ := hadvanced.tasks
      rw [← hadvanced.answers] at hphase
      refine hinv.update (by rw [hadvanced.answers]; exact List.Subset.refl _) ?_ id _ htasks hcall hphase
      intro did entry hpeek
      rw [hadvanced.answers]
      rcases hadvanced.cache.source did entry hpeek with hold | ⟨rfl, forced, resolved, rfl, rfl⟩
      · exact hinv.cache did entry hold
      · obtain ⟨hmem, hstamped, -⟩ := hinv.phase id _ htask
        exact ⟨hmem, hstamped⟩
    · exact hinv
  | answer id response =>
    rw [step]
    split
    · next call forced htask =>
      have hcall := hinv.started id _ htask
      rw [scheduled, htask] at hsched
      split
      · exact hinv.update (List.Subset.refl _) hinv.cache id _ rfl hcall trivial
      · next doc hdoc =>
        have hsub : s.answers ⊆ s.answers ++ [⟨call.did, ⟨doc, s.clock⟩⟩] := List.subset_append_left _ _
        have hmem : ⟨call.did, ⟨doc, s.clock⟩⟩ ∈ s.answers ++ [⟨call.did, ⟨doc, s.clock⟩⟩] :=
          List.mem_append_right _ List.mem_cons_self
        rw [hdoc] at hsched
        dsimp only at hsched
        rw [Bool.and_eq_true] at hsched
        refine hinv.update hsub ?_ id _ rfl hcall ⟨hmem, fun hforced => ⟨hmem, ?_⟩⟩
        · intro did entry hpeek
          obtain ⟨hold, hstamped⟩ := hinv.cache did entry hpeek
          exact ⟨hsub hold, hstamped⟩
        · intro since hsince
          have htimely := hsched.1
          rw [hforced, hsince] at htimely
          exact of_decide_eq_true htimely
    · exact hinv

theorem Holds.of_update {s s' : ResolverState} {id : ℕ} {call : Call} {phase' : Phase}
    (htasks : s'.tasks = Function.update s.tasks id (some ⟨call, phase'⟩)) {j : ℕ} {c : Call}
    {served : ServedDocument}
    (h : Holds s' j c served) :
    (j = id ∧ c = call ∧ phase'.copy = some served) ∨ (j ≠ id ∧ Holds s j c served) := by
  obtain ⟨phase, htask, hcopy⟩ := h
  rw [htasks, Function.update_apply] at htask
  split at htask
  · next hid =>
    obtain ⟨rfl, rfl⟩ := Task.mk.inj (Option.some.inj htask)
    exact .inl ⟨hid, rfl, hcopy⟩
  · next hid => exact .inr ⟨hid, phase, htask, hcopy⟩

theorem Ordered.update {s s' : ResolverState} (hord : Ordered s) (hanswers : s'.answers = s.answers)
    (hclock : s'.clock = s.clock) (hcache : s'.cache = s.cache) (id : ℕ) (call : Call) (phase' : Phase)
    (htasks : s'.tasks = Function.update s.tasks id (some ⟨call, phase'⟩)) (hcopy : phase'.copy = none) :
    Ordered s' := by
  have hheld (j : ℕ) (c : Call) (served : ServedDocument) (h : Holds s' j c served) : Holds s j c served := by
    rcases h.of_update htasks with ⟨-, -, hsome⟩ | ⟨-, hold⟩
    · rw [hcopy] at hsome
      cases hsome
    · exact hold
  refine ⟨by rw [hanswers, hclock]; exact hord.clock, ?_, ?_⟩
  · intro j c served j' c' served' h h'
    exact hord.alone j c served j' c' served' (hheld _ _ _ h) (hheld _ _ _ h')
  · intro j c served entry h hpeek
    rw [hcache] at hpeek
    exact hord.newer j c served entry (hheld _ _ _ h) hpeek

theorem step_ordered (hinv : Inv calls s) (hord : Ordered s)
    (hsched : scheduled resolver calls s event = true) : Ordered (step resolver event s) := by
  cases event with
  | tick => exact ⟨fun a ha => (hord.clock a ha).trans (Nat.le_succ _), hord.alone, hord.newer⟩
  | start id call =>
    rw [step]
    split
    · exact hord.update rfl rfl rfl id call _ rfl (start_copy call)
    · exact hord
  | advance id =>
    rw [step]
    split
    · next task htask =>
      obtain ⟨call, phase⟩ := task
      have hadvanced := advance_spec hinv phase htask hsched
      obtain ⟨phase', htasks, -, hcopy⟩ := hadvanced.tasks
      have hheld (j : ℕ) (c : Call) (served : ServedDocument)
          (h : Holds (advance resolver s id ⟨call, phase⟩) j c served) : Holds s j c served := by
        rcases h.of_update htasks with ⟨rfl, rfl, hsome⟩ | ⟨-, hold⟩
        · obtain ⟨forced, rfl⟩ := hcopy served hsome
          exact ⟨_, htask, rfl⟩
        · exact hold
      refine ⟨by rw [hadvanced.answers, hadvanced.clock]; exact hord.clock, ?_, ?_⟩
      · intro j c served j' c' served' h h'
        exact hord.alone j c served j' c' served' (hheld _ _ _ h) (hheld _ _ _ h')
      · intro j c served entry h hpeek
        rcases hadvanced.cache.source c.did entry hpeek with hold | ⟨hdid, forced, resolved, rfl, rfl⟩
        · exact hord.newer j c served entry (hheld _ _ _ h) hold
        · -- the task that stored the copy was the only one with a copy of the DID
          have hself : Holds s id call resolved.served := ⟨_, htask, rfl⟩
          rcases h.of_update htasks with ⟨-, -, hsome⟩ | ⟨hne, hother⟩
          · obtain ⟨forced', hphase⟩ := hcopy served hsome
            cases hphase
          · exact absurd (hord.alone j c served id call _ hother hself hdid) hne
    · exact hord
  | answer id response =>
    rw [step]
    split
    · next call forced htask =>
      rw [scheduled, htask] at hsched
      split
      · exact hord.update rfl rfl rfl id call _ rfl rfl
      · next doc hdoc =>
        rw [hdoc] at hsched
        dsimp only at hsched
        rw [Bool.and_eq_true] at hsched
        have hfree (j : ℕ) (c : Call) (served : ServedDocument) (h : Holds s j c served) :
            c.did ≠ call.did := by
          obtain ⟨phase, hj, hcopy⟩ := h
          have hone := List.all_eq_true.mp hsched.2 _ (hinv.started j _ hj)
          rw [hj, Option.all_some, hcopy] at hone
          simpa using hone
        refine ⟨?_, ?_, ?_⟩
        · intro a ha
          rcases List.mem_append.mp ha with hold | hnew
          · exact hord.clock a hold
          · obtain rfl := List.mem_singleton.mp hnew
            exact le_refl s.clock
        · intro j c served j' c' served' h h' hdid
          rcases h.of_update rfl with ⟨rfl, rfl, -⟩ | ⟨-, hold⟩
          · rcases h'.of_update rfl with ⟨rfl, -, -⟩ | ⟨-, hold'⟩
            · rfl
            · exact absurd hdid.symm (hfree j' c' served' hold')
          · rcases h'.of_update rfl with ⟨rfl, rfl, -⟩ | ⟨-, hold'⟩
            · exact absurd hdid (hfree j c served hold)
            · exact hord.alone j c served j' c' served' hold hold' hdid
        · intro j c served entry h hpeek
          rcases h.of_update rfl with ⟨-, rfl, hsome⟩ | ⟨-, hold⟩
          · obtain rfl := Option.some.inj hsome
            exact hord.clock _ (hinv.cache _ _ hpeek).1
          · exact hord.newer j c served entry hold hpeek
    · exact hord

theorem step_cache_mono (hinv : Inv calls s) (hord : Ordered s)
    (hsched : scheduled resolver calls s event = true) (did : String) (entry entry' : CacheEntry)
    (hold : s.cache.peek did = some entry)
    (hnew : (step resolver event s).cache.peek did = some entry') :
    entry.served.servedAt ≤ entry'.served.servedAt := by
  have hsame : s.cache.peek did = some entry' → entry.served.servedAt ≤ entry'.served.servedAt := by
    intro h
    rw [hold] at h
    cases h
    exact le_rfl
  cases event with
  | tick => exact hsame hnew
  | start id call =>
    rw [step] at hnew
    split at hnew
    · exact hsame hnew
    · exact hsame hnew
  | advance id =>
    rw [step] at hnew
    split at hnew
    · next task htask =>
      obtain ⟨call, phase⟩ := task
      have hadvanced := advance_spec hinv phase htask hsched
      rcases hadvanced.cache.source did entry' hnew with h | ⟨rfl, forced, resolved, rfl, rfl⟩
      · exact hsame h
      · exact hord.newer id call resolved.served entry ⟨_, htask, rfl⟩ hold
    · exact hsame hnew
  | answer id response =>
    rw [step] at hnew
    split at hnew
    · split at hnew
      · exact hsame hnew
      · exact hsame hnew
    · exact hsame hnew

end Step

section Run

variable (resolver : WebResolver) (capacity : ℕ) (calls : List (ℕ × Call))

theorem inv_initial : Inv calls (.initial capacity) := by
  refine ⟨?_, ?_, ?_⟩
  · intro id task h
    cases h
  · intro did entry h
    cases h
  · intro id task h
    cases h

theorem ordered_initial : Ordered (.initial capacity) := by
  refine ⟨?_, ?_, ?_⟩
  · intro a ha
    cases ha
  · rintro id call served id' call' served' ⟨phase, h, -⟩
    cases h
  · rintro id call served entry ⟨phase, h, -⟩
    cases h

theorem scheduledRun_append (s : ResolverState) (events events' : List Event) :
    scheduledRun resolver calls s (events ++ events') =
      (scheduledRun resolver calls s events && scheduledRun resolver calls (run resolver s events)
        events') := by
  induction events generalizing s with
  | nil => rfl
  | cons event rest ih =>
    rw [List.cons_append, scheduledRun, scheduledRun, ih, Bool.and_assoc]
    rfl

theorem run_inv (s : ResolverState) (events : List Event) (hinv : Inv calls s) (hord : Ordered s)
    (hstarted : startedCalls events ⊆ calls) (hsched : scheduledRun resolver calls s events = true) :
    Inv calls (run resolver s events) ∧ Ordered (run resolver s events) := by
  induction events generalizing s with
  | nil => exact ⟨hinv, hord⟩
  | cons event rest ih =>
    rw [scheduledRun, Bool.and_eq_true] at hsched
    have hevent : ∀ p ∈ event.started, p ∈ calls := fun p hp =>
      hstarted (List.mem_filterMap.mpr ⟨event, List.mem_cons_self, hp⟩)
    have hrest : startedCalls rest ⊆ calls := fun p hp => by
      obtain ⟨e, he, hp⟩ := List.mem_filterMap.mp hp
      exact hstarted (List.mem_filterMap.mpr ⟨e, List.mem_cons_of_mem _ he, hp⟩)
    exact ih _ (step_inv resolver calls s event hinv hevent hsched.1)
      (step_ordered resolver calls s event hinv hord hsched.1) hrest hsched.2

/-- In a run whose schedule keeps the answers and their stamps together, every finished operation is
honest about the host's answers, and the cache never goes back to an earlier answer. -/
theorem scheduled_runs_are_fresh (events : List Event)
    (hsched : scheduledRun resolver (startedCalls events) (.initial capacity) events = true) :
    (∀ reached, reached <+: events → ∀ id call outcome,
      (run resolver (.initial capacity) reached).tasks id = some ⟨call, .done outcome⟩ →
        outcome.Honest (run resolver (.initial capacity) reached).answers call) ∧
    ∀ reached event, reached ++ [event] <+: events → ∀ did entry entry',
      (run resolver (.initial capacity) reached).cache.peek did = some entry →
      (run resolver (.initial capacity) (reached ++ [event])).cache.peek did = some entry' →
        entry.served.servedAt ≤ entry'.served.servedAt := by
  have hreach (reached rest : List Event) (hevents : reached ++ rest = events) :
      Inv (startedCalls events) (run resolver (.initial capacity) reached) ∧
        Ordered (run resolver (.initial capacity) reached) ∧
        scheduledRun resolver (startedCalls events) (run resolver (.initial capacity) reached) rest =
        true := by
    have hsplit := hsched
    nth_rewrite 2 [← hevents] at hsplit
    rw [scheduledRun_append, Bool.and_eq_true] at hsplit
    have hstarted : startedCalls reached ⊆ startedCalls events := by
      rw [← hevents, startedCalls, startedCalls, List.filterMap_append]
      exact List.subset_append_left _ _
    obtain ⟨hinv, hord⟩ :=
      run_inv resolver _ _ reached (inv_initial capacity _) (ordered_initial capacity) hstarted
        hsplit.1
    exact ⟨hinv, hord, hsplit.2⟩
  constructor
  · rintro reached ⟨rest, hevents⟩ id call outcome hdone
    exact (hreach reached rest hevents).1.phase id _ hdone
  · rintro reached event ⟨rest, hevents⟩ did entry entry' hold hnew
    rw [List.append_assoc] at hevents
    obtain ⟨hinv, hord, hrest⟩ := hreach reached ([event] ++ rest) hevents
    rw [List.singleton_append, scheduledRun, Bool.and_eq_true] at hrest
    rw [run, List.foldl_append] at hnew
    exact step_cache_mono resolver _ _ event hinv hord hrest.1 did entry entry' hold hnew

end Run

def hostDid : String := "did:web:a.example"

def oldDocument : DidDocument := ⟨hostDid, [], [], []⟩

def rotatedDocument : DidDocument := ⟨hostDid, [⟨hostDid ++ "#k2", "Multikey", hostDid, none, none⟩], [], []⟩

def oldText : List UInt8 := "\x7b\"id\":\"did:web:a.example\"\x7d".toUTF8.data.toList

def rotatedText : List UInt8 :=
  ("\x7b\"id\":\"did:web:a.example\",\"verificationMethod\":[\x7b\"id\":\"did:web:a.example#k2\"," ++
    "\"type\":\"Multikey\",\"controller\":\"did:web:a.example\"\x7d]\x7d").toUTF8.data.toList

def hostResolver : WebResolver where
  env := {
    urlDecode := .ok
    checkUrl := fun _ => .ok ()
    parseDocument := fun text =>
      if text = oldText then .ok oldDocument
      else if text = rotatedText then .ok rotatedDocument
      else .error "expected value at line 1 column 1" }
  cacheMax := 86400
  forcedRefreshInterval := 3600
  intervalText := "3600s"

def hostResponse (text : List UInt8) : Except ReqwestError HttpResponse :=
  .ok ⟨true, "200 OK", some "application/did+json", none, [.ok text]⟩

def fetched (id : ℕ) (text : List UInt8) : List Event :=
  [.start id (.resolve hostDid), .advance id, .advance id, .answer id (hostResponse text)]

def staleRun : List Event :=
  fetched 0 oldText ++
    [.tick, .tick, .advance 0, .advance 0, .start 1 (.resolveWithFragment hostDid "k2" 2), .advance 1]

def reorderedRun : List Event :=
  fetched 0 oldText ++ .tick :: fetched 1 rotatedText ++ [.advance 1, .advance 1, .advance 0]

def rotatedRun : List Event :=
  [.tick, .tick, .start 0 (.resolveUntil hostDid 2 (fun _ => false)), .advance 0, .advance 0,
    .answer 0 (hostResponse rotatedText), .tick, .advance 0, .advance 0]

def fragmentOutcome (task : Task) : Option (String × String × ℕ × Outcome) :=
  match task with
  | ⟨.resolveWithFragment did fragment since, .done outcome⟩ => some (did, fragment, since, outcome)
  | _ => none

theorem of_fragmentOutcome {task : Task} {did fragment : String} {since : ℕ} {outcome : Outcome}
    (h : fragmentOutcome task = some (did, fragment, since, outcome)) :
    task = ⟨.resolveWithFragment did fragment since, .done outcome⟩ := by
  obtain ⟨call, phase⟩ := task
  cases call with
  | resolveWithFragment did' fragment' since' =>
    cases phase with
    | done outcome' =>
      simp only [fragmentOutcome, Option.some.injEq, Prod.mk.injEq] at h
      obtain ⟨rfl, rfl, rfl, rfl⟩ := h
      rfl
    | checking | rechecking | claiming | requesting | waiting | answered | storing | dropping => cases h
  | resolve | resolveFresh | resolveUntil | invalidate => cases h

theorem stale_answer_is_final :
    (∃ call outcome, (run hostResolver (.initial 1000) staleRun).tasks 1 = some ⟨call, .done outcome⟩ ∧
      ¬ outcome.Honest (run hostResolver (.initial 1000) staleRun).answers call) ∧
    ∃ entry entry', (run hostResolver (.initial 1000) reorderedRun).cache.peek hostDid = some entry ∧
      (run hostResolver (.initial 1000) (reorderedRun ++ [.advance 0])).cache.peek hostDid = some entry' ∧
      entry'.served.servedAt < entry.served.servedAt := by
  have hdone : ((run hostResolver (.initial 1000) staleRun).tasks 1).bind fragmentOutcome =
      some (hostDid, "k2", 2, .absent (absentFragment hostDid "k2" true) ⟨oldDocument, 0⟩) := by
        decide +kernel
  have hanswers : (run hostResolver (.initial 1000) staleRun).answers = [⟨hostDid, ⟨oldDocument, 0⟩⟩] := by
    decide +kernel
  obtain ⟨task, htask, hfinished⟩ := Option.bind_eq_some_iff.mp hdone
  rw [of_fragmentOutcome hfinished] at htask
  refine ⟨⟨_, _, htask, ?_⟩, ⟨⟨rotatedDocument, 1⟩, 1⟩,
    ⟨⟨oldDocument, 0⟩, 1⟩, by decide +kernel, by decide +kernel, by decide⟩
  intro hhonest
  obtain ⟨a, ha, -, -, hlate⟩ := hhonest hostDid "k2" 2 rfl rfl
  rw [hanswers, List.mem_singleton] at ha
  subst ha
  exact absurd hlate (by decide)

theorem rotatedRun_is_fresh :
    scheduledRun hostResolver (startedCalls rotatedRun) (.initial 1000) rotatedRun = true ∧
      ((run hostResolver (.initial 1000) rotatedRun).tasks 0).map (·.phase) =
        some (.done (.fresh ⟨⟨rotatedDocument, 2⟩, true⟩)) ∧
      ∀ id call outcome, (run hostResolver (.initial 1000) rotatedRun).tasks id = some ⟨call, .done outcome⟩ →
        outcome.Honest (run hostResolver (.initial 1000) rotatedRun).answers call := by
  have hsched : scheduledRun hostResolver (startedCalls rotatedRun) (.initial 1000) rotatedRun = true := by
    decide +kernel
  exact ⟨hsched, by decide +kernel,
    (scheduled_runs_are_fresh hostResolver 1000 rotatedRun hsched).1 rotatedRun (List.prefix_refl _)⟩

end Acdp.Did
