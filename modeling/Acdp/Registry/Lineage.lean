import Acdp.Registry.StoreSteps
import Mathlib.Data.List.Nodup
import Mathlib.Data.Set.Function

namespace Acdp.Registry.Store

open Acdp.Types
open Acdp.Crypto (deriveLineageId deriveLineageId_eq_iff utf8)
open Acdp.Crypto.Merkle (Digest)
open Acdp.Foundation.Transition

/-- One entry of the `lineages` index: a chain of versions with the head at its end. -/
structure LineageList (derive : CtxId → LineageId) (s : Inner) (lineageId : LineageId)
    (ids : List CtxId) : Prop where
  nonempty : ids ≠ []
  nodup : ids.Nodup
  derived : ∀ c ∈ ids.head?, lineageId = derive c
  stored : ∀ i id, ids[i]? = some id → ∃ ctx, s.byCtx.get? id = some ctx ∧
    ctx.body.version.toNat = i + 1 ∧ ctx.body.lineageId = lineageId ∧
    ctx.body.supersedes = (if i = 0 then none else ids[i - 1]?) ∧
    ctx.registryState.status = if i + 1 < ids.length then .superseded else .active

structure LineageInvariant (derive : CtxId → LineageId) (minted : Set CtxId) (s : Inner) : Prop where
  lists : ∀ (lineageId : LineageId) (ids : List CtxId), s.lineages[lineageId]? = some ids →
    LineageList derive s lineageId ids
  indexed : ∀ id ctx, s.byCtx.get? id = some ctx →
    ∃ ids, s.lineages[ctx.body.lineageId]? = some ids ∧ id ∈ ids
  minted : ∀ id ctx, s.byCtx.get? id = some ctx → id ∈ minted

variable {derive : CtxId → LineageId} {minted : Set CtxId} {s s' : Inner} {lineageId : LineageId}
  {ids : List CtxId}

theorem LineageList.mem_stored (h : LineageList derive s lineageId ids) (id : CtxId) (hid : id ∈ ids) :
    ∃ ctx, s.byCtx.get? id = some ctx ∧ ctx.body.lineageId = lineageId := by
  obtain ⟨i, hi⟩ := List.mem_iff_getElem?.mp hid
  obtain ⟨ctx, hget, -, hl, -, -⟩ := h.stored i id hi
  exact ⟨ctx, hget, hl⟩

theorem LineageList.frame (h : LineageList derive s lineageId ids)
    (hframe : ∀ id ∈ ids, ∀ ctx, s.byCtx.get? id = some ctx → ∃ ctx', s'.byCtx.get? id = some ctx' ∧
      ctx'.body = ctx.body ∧ ctx'.registryState.status = ctx.registryState.status) :
    LineageList derive s' lineageId ids where
  nonempty := h.nonempty
  nodup := h.nodup
  derived := h.derived
  stored := by
    intro i id hi
    obtain ⟨ctx, hget, hversion, hl, hsup, hstatus⟩ := h.stored i id hi
    obtain ⟨ctx', hget', hbody, hst⟩ := hframe id (List.mem_of_getElem? hi) ctx hget
    exact ⟨ctx', hget', by rw [hbody, hversion], by rw [hbody, hl], by rw [hbody, hsup],
      by rw [hst, hstatus]⟩

theorem LineageList.single (c : CtxId) (ctx : FullContext) (hget : s.byCtx.get? c = some ctx)
    (hversion : ctx.body.version.toNat = 1) (hl : ctx.body.lineageId = lineageId)
    (hsup : ctx.body.supersedes = none) (hstatus : ctx.registryState.status = .active)
    (hderive : lineageId = derive c) : LineageList derive s lineageId [c] where
  nonempty := by simp
  nodup := List.nodup_singleton c
  derived := by
    intro d hd
    obtain rfl : c = d := by simpa using hd
    exact hderive
  stored := by
    intro i id hi
    obtain ⟨rfl, rfl⟩ : i = 0 ∧ c = id := by
      cases i with
      | zero => exact ⟨rfl, by simpa using hi⟩
      | succ i => simp at hi
    exact ⟨ctx, hget, hversion, hl, hsup, by simpa using hstatus⟩

theorem LineageList.head_of_not_superseded (h : LineageList derive s lineageId ids) (prev : CtxId)
    (ctx : FullContext) (hmem : prev ∈ ids) (hget : s.byCtx.get? prev = some ctx)
    (hstatus : ctx.registryState.status ≠ .superseded) :
    ids.getLast? = some prev ∧ ctx.body.version.toNat = ids.length := by
  obtain ⟨i, hi⟩ := List.mem_iff_getElem?.mp hmem
  obtain ⟨hlt, -⟩ := List.getElem?_eq_some_iff.mp hi
  obtain ⟨ctx', hget', hversion, -, -, hst⟩ := h.stored i prev hi
  obtain rfl : ctx' = ctx := Option.some.inj (hget'.symm.trans hget)
  have hlen : ¬ i + 1 < ids.length := by
    intro hc
    rw [if_pos hc] at hst
    exact hstatus hst
  have hi' : i = ids.length - 1 := by omega
  exact ⟨by rw [List.getLast?_eq_getElem?, ← hi', hi], by omega⟩

theorem LineageList.snoc (h : LineageList derive s lineageId ids) (prev c : CtxId)
    (prevCtx ctx : FullContext) (hlast : ids.getLast? = some prev) (hfresh : c ∉ ids)
    (hother : ∀ id ∈ ids, id ≠ prev → s'.byCtx.get? id = s.byCtx.get? id)
    (hprev : s.byCtx.get? prev = some prevCtx)
    (hprev' : s'.byCtx.get? prev =
      some { prevCtx with registryState := supersede prevCtx.registryState })
    (hget : s'.byCtx.get? c = some ctx) (hversion : ctx.body.version.toNat = ids.length + 1)
    (hl : ctx.body.lineageId = lineageId) (hsup : ctx.body.supersedes = some prev)
    (hstatus : ctx.registryState.status = .active) :
    LineageList derive s' lineageId (ids ++ [c]) where
  nonempty := by simp
  nodup := by
    refine List.Nodup.append h.nodup (List.nodup_singleton c) ?_
    simpa using hfresh
  derived := by
    intro d hd
    rw [List.head?_append_of_ne_nil _ h.nonempty] at hd
    exact h.derived d hd
  stored := by
    intro i id hi
    rcases Nat.lt_or_ge i ids.length with hlt | hge
    · rw [List.getElem?_append_left hlt] at hi
      obtain ⟨old, hold, hv, hli, hs, hst⟩ := h.stored i id hi
      have hsup' : (ids ++ [c])[i - 1]? = ids[i - 1]? := List.getElem?_append_left (by omega)
      have hlen : i + 1 < (ids ++ [c]).length := by simp [hlt]
      rw [if_pos hlen, hsup']
      by_cases hid : id = prev
      · subst hid
        obtain rfl : old = prevCtx := Option.some.inj (hold.symm.trans hprev)
        exact ⟨_, hprev', hv, hli, hs, rfl⟩
      · have hne : i + 1 ≠ ids.length := by
          intro hc
          rw [List.getLast?_eq_getElem?, show ids.length - 1 = i by omega, hi] at hlast
          exact hid (Option.some.inj hlast)
        rw [if_pos (by omega)] at hst
        exact ⟨old, (hother id (List.mem_of_getElem? hi) hid).trans hold, hv, hli, hs, hst⟩
    · have hi' : i = ids.length := by
        obtain ⟨hlt, -⟩ := List.getElem?_eq_some_iff.mp hi
        simp only [List.length_append, List.length_singleton] at hlt
        omega
      subst hi'
      obtain rfl : c = id := by simpa using hi
      have hpos : ids.length ≠ 0 := by simpa using h.nonempty
      refine ⟨ctx, hget, hversion, hl, ?_, by simpa using hstatus⟩
      rw [if_neg hpos, List.getElem?_append_left (by omega), hsup, ← hlast,
        List.getLast?_eq_getElem?]

theorem LineageInvariant.frame (h : LineageInvariant derive minted s)
    (hlineages : s'.lineages = s.lineages)
    (hframe : ∀ id, (s'.byCtx.get? id).map (fun c => (c.body, c.registryState.status)) =
      (s.byCtx.get? id).map (fun c => (c.body, c.registryState.status))) :
    LineageInvariant derive minted s' := by
  have hfwd : ∀ id ctx, s.byCtx.get? id = some ctx → ∃ ctx', s'.byCtx.get? id = some ctx' ∧
      ctx'.body = ctx.body ∧ ctx'.registryState.status = ctx.registryState.status := by
    intro id ctx hget
    have hf := hframe id
    rw [hget, Option.map_some, Option.map_eq_some_iff] at hf
    obtain ⟨ctx', hget', heq⟩ := hf
    exact ⟨ctx', hget', congrArg Prod.fst heq, congrArg Prod.snd heq⟩
  have hbwd : ∀ id ctx', s'.byCtx.get? id = some ctx' → ∃ ctx, s.byCtx.get? id = some ctx ∧
      ctx'.body = ctx.body := by
    intro id ctx' hget'
    have hf := hframe id
    rw [hget', Option.map_some, eq_comm, Option.map_eq_some_iff] at hf
    obtain ⟨ctx, hget, heq⟩ := hf
    exact ⟨ctx, hget, (congrArg Prod.fst heq).symm⟩
  refine ⟨?_, ?_, ?_⟩
  · intro lineageId ids hids
    rw [hlineages] at hids
    exact (h.lists lineageId ids hids).frame (fun id _ ctx hget => hfwd id ctx hget)
  · intro id ctx' hget'
    obtain ⟨ctx, hget, hbody⟩ := hbwd id ctx' hget'
    rw [hlineages, hbody]
    exact h.indexed id ctx hget
  · intro id ctx' hget'
    obtain ⟨ctx, hget, -⟩ := hbwd id ctx' hget'
    exact h.minted id ctx hget

theorem LineageInvariant.new : LineageInvariant derive minted Inner.new where
  lists := by
    intro lineageId ids h
    simp [Inner.new] at h
  indexed := by
    intro id ctx h
    simp [Inner.new, ContextTable.get?_empty] at h
  minted := by
    intro id ctx h
    simp [Inner.new, ContextTable.get?_empty] at h

theorem LineageInvariant.lifecycle (h : LineageInvariant derive minted s) (event : LifecycleEvent)
    (now : DateTime) : LineageInvariant derive minted (commitLifecycleEvent event now s).2 := by
  obtain ⟨e, he⟩ | ⟨ctx, -, -, he⟩ | ⟨ctx, -, -, -, he⟩ := commitLifecycleEvent_cases event now s
  · rw [he]
    exact h
  · rw [he]
    exact h
  · rw [he]
    refine h.frame rfl ?_
    intro id
    dsimp only
    rw [ContextTable.get?_setState]
    split_ifs
    · rw [Option.map_map]
      rfl
    · rfl

end Acdp.Registry.Store
