import Acdp.Registry.StoreSteps
import Mathlib.Data.List.Nodup
import Mathlib.Data.List.Infix

namespace Acdp.Registry.Store

open Acdp.Types
open Acdp.Crypto.Merkle (Digest)
open Acdp.Foundation.Transition

def history (ctx : FullContext) : List LifecycleEvent := ctx.registryState.lifecycleEvents.getD []

def historyOf (s : Inner) (id : CtxId) : Option (List LifecycleEvent) := (s.byCtx.get? id).map history

structure AlternatingHistory (events : List LifecycleEvent) : Prop where
  alternating : ∀ i e, events[i]? = some e →
    e.eventType = if i % 2 = 0 then .retracted else .republished
  distinct : (events.map (·.eventId)).Nodup

theorem AlternatingHistory.nil : AlternatingHistory [] where
  alternating := by simp
  distinct := List.nodup_nil

theorem AlternatingHistory.retractionState_eq (events : List LifecycleEvent)
    (h : AlternatingHistory events) : retractionState events = decide (events.length % 2 = 1) := by
  obtain rfl | ⟨init, e, rfl⟩ := List.eq_nil_or_concat' events
  · rfl
  · have he := h.alternating init.length e (by simp)
    by_cases hpar : init.length % 2 = 0
    · rw [if_pos hpar] at he
      rw [retractionState_append init e true (by rw [he]; rfl), List.length_append,
        List.length_singleton, decide_eq_true (by omega)]
    · rw [if_neg hpar] at he
      rw [retractionState_append init e false (by rw [he]; rfl), List.length_append,
        List.length_singleton, decide_eq_false (by omega)]

theorem AlternatingHistory.snoc (events : List LifecycleEvent) (h : AlternatingHistory events)
    (event : LifecycleEvent) (hfresh : events.find? (·.eventId == event.eventId) = none)
    (halt : checkAlternation event (retractionState events) = .ok ()) :
    AlternatingHistory (events ++ [event]) where
  alternating := by
    intro i e hi
    rcases Nat.lt_or_ge i events.length with hlt | hge
    · rw [List.getElem?_append_left hlt] at hi
      exact h.alternating i e hi
    · obtain ⟨hlt, -⟩ := List.getElem?_eq_some_iff.mp hi
      rw [List.length_append, List.length_singleton] at hlt
      obtain rfl : i = events.length := by omega
      obtain rfl : event = e := by simpa using hi
      rw [checkAlternation_ok event _ halt, h.retractionState_eq]
      by_cases hpar : events.length % 2 = 0
      · rw [if_pos hpar, decide_eq_false (by omega)]
        rfl
      · rw [if_neg hpar, decide_eq_true (by omega)]
        rfl
  distinct := by
    rw [List.map_append]
    refine List.Nodup.append h.distinct (List.nodup_singleton _) ?_
    intro k hk hk'
    obtain rfl : k = event.eventId := by simpa using hk'
    obtain ⟨prior, hprior, heq⟩ := List.mem_map.mp hk
    exact List.find?_eq_none.mp hfresh prior hprior (beq_iff_eq.mpr heq)

theorem AlternatingHistory.find?_eq (events : List LifecycleEvent) (h : AlternatingHistory events)
    (event : LifecycleEvent) (hmem : event ∈ events) :
    events.find? (·.eventId == event.eventId) = some event := by
  cases hfind : events.find? (·.eventId == event.eventId) with
  | none => exact absurd (beq_self_eq_true event.eventId) (List.find?_eq_none.mp hfind event hmem)
  | some prior =>
    have heq : prior.eventId = event.eventId := by simpa using List.find?_some hfind
    rw [List.inj_on_of_nodup_map h.distinct (List.mem_of_find?_eq_some hfind) hmem heq]

def HistoryInvariant (s : Inner) : Prop :=
  ∀ id events, historyOf s id = some events →
    AlternatingHistory events ∧ ∀ e ∈ events, e.ctxId = id

def HistoryExtends (s s' : Inner) : Prop :=
  ∀ id events, historyOf s id = some events → ∃ events', historyOf s' id = some events' ∧
    events <+: events'

instance : Std.Refl HistoryExtends where
  refl _ _ events h := ⟨events, h, List.prefix_rfl⟩

instance : IsTrans Inner HistoryExtends where
  trans _ _ _ hab hbc id events h := by
    obtain ⟨events', h', hp⟩ := hab id events h
    obtain ⟨events'', h'', hp'⟩ := hbc id events' h'
    exact ⟨events'', h'', hp.trans hp'⟩

theorem historyOf_markSuperseded (s : Inner) (ctxId id : CtxId) :
    historyOf (markSuperseded s ctxId) id = historyOf s id := by
  rw [historyOf, markSuperseded, ContextTable.get?_setState]
  split_ifs
  · rw [Option.map_map]
    rfl
  · rfl

theorem historyOf_publish (s : Inner) (commit : PublishCommit) (now : DateTime) (body : Body)
    (registryReceipt : Option Json) (id : CtxId) :
    historyOf (s.publish commit now body registryReceipt) id =
      if body.ctxId = id then some [] else historyOf s id := by
  rw [historyOf, publish_get?, Option.map_map]
  split_ifs <;> rfl

theorem historyOf_appendEvent (s : Inner) (event : LifecycleEvent) (id : CtxId) :
    historyOf { s with byCtx := s.byCtx.setState event.ctxId (appendEvent event) } id =
      if event.ctxId = id then (historyOf s id).map (· ++ [event]) else historyOf s id := by
  rw [historyOf, ContextTable.get?_setState]
  split_ifs
  · rw [Option.map_map, historyOf, Option.map_map]
    rfl
  · rfl

theorem apply_history_cases (sha256 : List UInt8 → Digest) (call : StoreCall) (s : Inner) :
    (∀ id, historyOf (call.apply sha256 s).2 id = historyOf s id) ∨
    (∃ c, historyOf s c = none ∧ ∀ id, historyOf (call.apply sha256 s).2 id =
      if c = id then some [] else historyOf s id) ∨
    (∃ event events, historyOf s event.ctxId = some events ∧
      events.find? (·.eventId == event.eventId) = none ∧
      checkAlternation event (retractionState events) = .ok () ∧
      ∀ id, historyOf (call.apply sha256 s).2 id =
        if event.ctxId = id then some (events ++ [event]) else historyOf s id) := by
  cases call with
  | commitPublish commit now uuid =>
    change (∀ id, historyOf (Store.commitPublish sha256 commit now uuid s).2 id = historyOf s id) ∨ _
    obtain ⟨o, -, hcall⟩ | ⟨e, -, -, hcall⟩ | ⟨body, receipt, -, hprep, hcall⟩ :=
      commitPublish_cases sha256 commit now uuid s
    · exact .inl (fun id => by rw [hcall])
    · exact .inl (fun id => by rw [hcall])
    · obtain ⟨first, lineageId, -, -, rfl, hfresh, -⟩ := preparePublish_ok _ _ _ _ _ _ _ hprep
      refine .inr (.inl ⟨_, by rw [historyOf, hfresh, Option.map_none], ?_⟩)
      intro id
      rw [StoreCall.apply, hcall]
      exact historyOf_publish s commit now _ receipt id
  | markSuperseded ctxId => exact .inl (historyOf_markSuperseded s ctxId)
  | commitLifecycleEvent event now =>
    change (∀ id, historyOf (Store.commitLifecycleEvent event now s).2 id = historyOf s id) ∨ _
    obtain ⟨e, hcall⟩ | ⟨ctx, -, -, hcall⟩ | ⟨ctx, hctx, hfind, halt, hcall⟩ :=
      commitLifecycleEvent_cases event now s
    · exact .inl (fun id => by rw [hcall])
    · exact .inl (fun id => by rw [hcall])
    · have hhist : historyOf s event.ctxId = some (history ctx) := by
        rw [historyOf, hctx, Option.map_some]
      refine .inr (.inr ⟨event, history ctx, hhist, hfind, halt, ?_⟩)
      intro id
      rw [StoreCall.apply, hcall]
      refine (historyOf_appendEvent s event id).trans ?_
      split_ifs with hid
      · rw [← hid, hhist, Option.map_some]
      · rfl

theorem HistoryInvariant.new : HistoryInvariant Inner.new := by
  intro id events h
  simp [historyOf, Inner.new, ContextTable.get?_empty] at h

theorem HistoryInvariant.apply (sha256 : List UInt8 → Digest) (call : StoreCall) (s : Inner)
    (h : HistoryInvariant s) : HistoryInvariant (call.apply sha256 s).2 := by
  intro id events' h'
  obtain hsame | ⟨c, -, hnew⟩ | ⟨event, events, hevents, hfind, halt, happ⟩ :=
    apply_history_cases sha256 call s
  · exact h id events' (hsame id ▸ h')
  · rw [hnew] at h'
    split_ifs at h'
    · obtain rfl := Option.some.inj h'
      exact ⟨AlternatingHistory.nil, by simp⟩
    · exact h id events' h'
  · rw [happ] at h'
    split_ifs at h' with hid
    · subst hid
      obtain rfl := Option.some.inj h'
      obtain ⟨halternating, hown⟩ := h _ events hevents
      refine ⟨halternating.snoc events event hfind halt, ?_⟩
      intro e he
      rcases List.mem_append.mp he with he | he
      · exact hown e he
      · rw [List.mem_singleton.mp he]
    · exact h id events' h'

theorem HistoryExtends.apply (sha256 : List UInt8 → Digest) (call : StoreCall) (s : Inner) :
    HistoryExtends s (call.apply sha256 s).2 := by
  intro id events h
  obtain hsame | ⟨c, hc, hnew⟩ | ⟨event, events', hevents, -, -, happ⟩ :=
    apply_history_cases sha256 call s
  · exact ⟨events, (hsame id).trans h, List.prefix_rfl⟩
  · have hne : c ≠ id := by
      rintro rfl
      rw [hc] at h
      cases h
    exact ⟨events, by rw [hnew, if_neg hne, h], List.prefix_rfl⟩
  · by_cases hid : event.ctxId = id
    · subst hid
      obtain rfl : events' = events := Option.some.inj (hevents.symm.trans h)
      exact ⟨_, by rw [happ, if_pos rfl], List.prefix_append _ _⟩
    · exact ⟨events, by rw [happ, if_neg hid, h], List.prefix_rfl⟩

def StoreReply.Refused : StoreReply → Prop
  | .published (.error _) => True
  | .published (.ok (.idempotentReplay _)) => True
  | .lifecycle (.error _) => True
  | .lifecycle (.ok (.idempotentReplay _)) => True
  | _ => False

theorem apply_refused (sha256 : List UInt8 → Digest) (call : StoreCall) (s : Inner)
    (h : (call.apply sha256 s).1.Refused) : (call.apply sha256 s).2 = s := by
  cases call with
  | commitPublish commit now uuid =>
    rw [StoreCall.apply] at h ⊢
    obtain ⟨o, -, hcall⟩ | ⟨e, -, -, hcall⟩ | ⟨body, receipt, -, -, hcall⟩ :=
      commitPublish_cases sha256 commit now uuid s
    · rw [hcall]
      rfl
    · rw [hcall]
      rfl
    · rw [hcall] at h
      exact h.elim
  | markSuperseded ctxId => exact h.elim
  | commitLifecycleEvent event now =>
    rw [StoreCall.apply] at h ⊢
    obtain ⟨e, hcall⟩ | ⟨ctx, -, -, hcall⟩ | ⟨ctx, -, -, -, hcall⟩ :=
      commitLifecycleEvent_cases event now s
    · rw [hcall]
      rfl
    · rw [hcall]
      rfl
    · rw [hcall] at h
      exact h.elim

theorem commitLifecycleEvent_resubmit (s : Inner) (h : HistoryInvariant s) (id : CtxId)
    (events : List LifecycleEvent) (hid : historyOf s id = some events) (event : LifecycleEvent)
    (hmem : event ∈ events) (now : DateTime) :
    ∃ ctx, s.byCtx.get? id = some ctx ∧
      commitLifecycleEvent event now s = (.ok (.idempotentReplay (projectContext ctx now)), s) := by
  obtain ⟨halternating, hown⟩ := h id events hid
  obtain ⟨ctx, hctx, rfl⟩ := Option.map_eq_some_iff.mp hid
  have hfind : (ctx.registryState.lifecycleEvents.getD []).find? (·.eventId == event.eventId) =
      some event := halternating.find?_eq _ event hmem
  have hget : s.byCtx.get? event.ctxId = some ctx := by rw [hown event hmem, hctx]
  refine ⟨ctx, hctx, ?_⟩
  rw [commitLifecycleEvent, hget]
  dsimp only
  rw [hfind]
  exact if_pos rfl

/-- Along every run the lifecycle histories alternate from a retraction, only grow at their end, are
untouched by refused calls, and answer the resubmission of any event they hold with a replay. -/
theorem lifecycle_histories (sha256 : List UInt8 → Digest) (calls : List StoreCall) :
    (∀ id events, historyOf (runCalls sha256 calls Inner.new) id = some events →
      AlternatingHistory events) ∧
    (∀ call : StoreCall, HistoryExtends (runCalls sha256 calls Inner.new)
      (call.apply sha256 (runCalls sha256 calls Inner.new)).2) ∧
    (∀ call : StoreCall, (call.apply sha256 (runCalls sha256 calls Inner.new)).1.Refused →
      (call.apply sha256 (runCalls sha256 calls Inner.new)).2 = runCalls sha256 calls Inner.new) ∧
    (∀ id events event, historyOf (runCalls sha256 calls Inner.new) id = some events →
      event ∈ events → ∀ (later : List StoreCall) (now : DateTime),
        ∃ ctx, (runCalls sha256 (calls ++ later) Inner.new).byCtx.get? id = some ctx ∧
          commitLifecycleEvent event now (runCalls sha256 (calls ++ later) Inner.new) =
            (.ok (.idempotentReplay (projectContext ctx now)),
              runCalls sha256 (calls ++ later) Inner.new)) := by
  have hinv : ∀ cs, HistoryInvariant (runCalls sha256 cs Inner.new) := by
    intro cs
    exact runState_invariant (StoreCall.apply sha256) (fun _ => True) HistoryInvariant
      (fun call s _ h => HistoryInvariant.apply sha256 call s h) cs _ (fun _ _ => trivial)
      HistoryInvariant.new
  refine ⟨fun id events h => (hinv calls id events h).1,
    fun call => HistoryExtends.apply sha256 call _,
    fun call h => apply_refused sha256 call _ h, ?_⟩
  intro id events event hid hmem later now
  have hext : HistoryExtends (runCalls sha256 calls Inner.new)
      (runCalls sha256 (calls ++ later) Inner.new) := by
    rw [runCalls, runCalls, runState_append]
    exact runState_extends (StoreCall.apply sha256) HistoryExtends (HistoryExtends.apply sha256) later _
  obtain ⟨events', hid', hext'⟩ := hext id events hid
  exact commitLifecycleEvent_resubmit _ (hinv _) id events' hid' event (hext'.subset hmem) now

end Acdp.Registry.Store
