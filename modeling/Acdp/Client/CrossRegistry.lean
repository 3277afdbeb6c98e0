import Acdp.Chain.SealedSnapshots
import Acdp.Client.Errors
import Acdp.Foundation.Frontier
import Acdp.Types.Body
import Std.Data.ExtTreeSet
import Std.Data.ExtTreeSet.Lemmas

namespace Acdp.Client.CrossRegistry

open Acdp.Types
open Acdp.Foundation.Distance
open Std (ExtTreeSet)

structure ResolverOptions where
  maxDepth : ℕ
  maxNodes : ℕ
  maxFanout : ℕ
deriving DecidableEq, Repr

def ResolverOptions.default : ResolverOptions where
  maxDepth := 10
  maxNodes := 100
  maxFanout := 32

/-- The locals of the walk, with a log of the calls of `resolve_inner`. -/
structure WalkState (V : Type) where
  seen : ExtTreeSet String
  results : List V
  frontier : List (CtxId × ℕ)
  requests : List CtxId

inductive Turn (V : Type) where
  | next (s : WalkState V)
  | stop (result : Except ClientError (List V)) (requests : List CtxId)

section Walk

variable {V : Type} (body : V → Body) (resolve : CtxId → Except ClientError V) (options : ResolverOptions)

def fanoutError (who : String) (ctxId : CtxId) (fanout : ℕ) : ClientError :=
  .crossRegistryResolutionFailed (who ++ "context " ++ ctxId ++ " has derived_from fanout " ++
    toString fanout ++ " > max_fanout=" ++ toString options.maxFanout)

def depthError (ctxId : CtxId) : ClientError :=
  .crossRegistryResolutionFailed ("derived_from walk exceeded max_depth=" ++
    toString options.maxDepth ++ " at " ++ ctxId)

def nodesError (ctxId : CtxId) : ClientError :=
  .crossRegistryResolutionFailed ("derived_from walk exceeded max_nodes=" ++ toString options.maxNodes ++
    " (last attempted: " ++ ctxId ++ ")")

def WalkState.visit (s : WalkState V) (next : CtxId) (depth : ℕ) (rest : List (CtxId × ℕ)) (verified : V) :
    WalkState V where
  seen := s.seen.insert next
  results := s.results ++ [verified]
  frontier := rest ++ ((body verified).derivedFrom.filter (fun c => c ∉ s.seen.insert next)).map
    (fun c => (c, depth + 1))
  requests := s.requests ++ [next]

def turn (s : WalkState V) : Turn V :=
  match s.frontier with
  | [] => .stop (.ok s.results) s.requests
  | (next, depth) :: rest =>
    if next ∈ s.seen then .next { s with frontier := rest }
    else if options.maxDepth < depth then .stop (.error (depthError options next)) s.requests
    else if options.maxNodes ≤ s.results.length then .stop (.error (nodesError options next)) s.requests
    else match resolve next with
      | .error e => .stop (.error e) (s.requests ++ [next])
      | .ok verified =>
        if options.maxFanout < (body verified).derivedFrom.length then
          .stop (.error (fanoutError options "" next (body verified).derivedFrom.length))
          (s.requests ++ [next])
        else .next (s.visit body next depth rest verified)

def loop : ℕ → WalkState V → Option (Except ClientError (List V) × List CtxId)
  | 0, _ => none
  | fuel + 1, s =>
    match turn body resolve options s with
    | .next s' => loop fuel s'
    | .stop result requests => some (result, requests)

def walkStart (root : Body) : WalkState V where
  seen := (∅ : ExtTreeSet String).insert root.ctxId
  results := []
  frontier := root.derivedFrom.map (fun c => (c, 1))
  requests := []

def walkDerivedFromInner (fuel : ℕ) (root : Body) : Option (Except ClientError (List V) × List CtxId) :=
  if options.maxFanout < root.derivedFrom.length then
    some (.error (fanoutError options "root " root.ctxId root.derivedFrom.length), [])
  else loop body resolve options fuel (walkStart root)

end Walk

section Ancestry

variable {V : Type} (body : V → Body) (resolve : CtxId → Except ClientError V) (root : Body)

def parentsOf (c : CtxId) : List CtxId :=
  if c = root.ctxId then root.derivedFrom
  else match resolve c with
    | .ok v => (body v).derivedFrom
    | .error _ => []

def Edge (c d : CtxId) : Prop := d ∈ parentsOf body resolve root c

def Distance (n : ℕ) (c : CtxId) : Prop := IsDistance (Edge body resolve root) (· = root.ctxId) n c

def Ancestor (c : CtxId) : Prop :=
  c ≠ root.ctxId ∧ ∃ n, ReachIn (Edge body resolve root) (· = root.ctxId) n c

structure Walkable (options : ResolverOptions) : Prop where
  rootFanout : root.derivedFrom.length ≤ options.maxFanout
  resolves : ∀ c, Ancestor body resolve root c → ∃ v, resolve c = .ok v
  fanout : ∀ c v, Ancestor body resolve root c → resolve c = .ok v →
    (body v).derivedFrom.length ≤ options.maxFanout
  depth : ∀ c n, Ancestor body resolve root c → Distance body resolve root n c → n ≤ options.maxDepth
  nodes : ∀ l : List CtxId, l.Nodup → (∀ c ∈ l, Ancestor body resolve root c) → l.length ≤ options.maxNodes

end Ancestry

section Invariant

variable {V : Type} (body : V → Body) (resolve : CtxId → Except ClientError V)
    (options : ResolverOptions) (root : Body)

def ids (s : WalkState V) : List CtxId := s.results.map (fun v => (body v).ctxId)

structure Explored (s : WalkState V) : Prop where
  queue : Frontier (Edge body resolve root) (· = root.ctxId) (· ∈ s.seen) s.frontier
  seen : ∀ c : CtxId, c ∈ s.seen ↔ c = root.ctxId ∨ c ∈ ids body s
  nodup : (ids body s).Nodup
  other : root.ctxId ∉ ids body s
  resolved : ∀ v ∈ s.results, resolve (body v).ctxId = .ok v
  fanout : ∀ v ∈ s.results, (body v).derivedFrom.length ≤ options.maxFanout
  depth : ∀ c ∈ ids body s, ∃ n ≤ options.maxDepth, Distance body resolve root n c
  order : (ids body s).Pairwise (fun c d =>
    ∀ m n, Distance body resolve root m c → Distance body resolve root n d → m ≤ n)
  nodes : s.results.length ≤ options.maxNodes
  requests : s.requests = ids body s

theorem mem_insert_seen (t : ExtTreeSet String) (k a : String) : a ∈ t.insert k ↔ a ∈ t ∨ a = k := by
  rw [ExtTreeSet.mem_insert, Std.LawfulEqCmp.compare_eq_iff_eq, or_comm, eq_comm]

theorem explored_walkStart : Explored body resolve options root (walkStart root) := by
  have hseen : (· ∈ (walkStart (V := V) root).seen) = fun c : CtxId => c = root.ctxId := by
    funext c
    rw [walkStart, mem_insert_seen]
    simp
  refine ⟨?_, fun c => ?_, List.nodup_nil, List.not_mem_nil, nofun, nofun, nofun, .nil, Nat.zero_le _, rfl⟩
  · rw [hseen]
    refine frontier_start _ _ root.ctxId (fun x => Iff.rfl) root.derivedFrom (fun y => ?_)
    rw [Edge, parentsOf, if_pos rfl]
  · rw [iff_of_eq (congrFun hseen c)]
    simp [ids, walkStart]

variable {body resolve options root} {s : WalkState V} {next : CtxId} {depth : ℕ} {rest : List (CtxId × ℕ)}

theorem Explored.skip (h : Explored body resolve options root s)
    (hfrontier : s.frontier = (next, depth) :: rest) (hseen : next ∈ s.seen) :
    Explored body resolve options root { s with frontier := rest } := by
  have hqueue := h.queue
  rw [hfrontier] at hqueue
  exact ⟨hqueue.skip _ _ hseen, h.seen, h.nodup, h.other, h.resolved, h.fanout, h.depth, h.order,
    h.nodes, h.requests⟩

section New

variable (h : Explored body resolve options root s) (hfrontier : s.frontier = (next, depth) :: rest)
  (hnew : next ∉ s.seen)
include h hfrontier hnew

theorem Explored.distance_next : Distance body resolve root depth next := by
  have hqueue := h.queue
  rw [hfrontier] at hqueue
  exact hqueue.isDistance_head _ _ hnew

theorem Explored.ancestor_next : Ancestor body resolve root next := by
  refine ⟨fun heq => hnew ((h.seen next).mpr (.inl heq)), depth, ?_⟩
  exact (h.distance_next hfrontier hnew).1

theorem Explored.visit (hbody : ∀ c v, resolve c = .ok v → (body v).ctxId = c) (verified : V)
    (hresolve : resolve next = .ok verified) (hdepth : depth ≤ options.maxDepth)
    (hnodes : s.results.length < options.maxNodes)
    (hfanout : (body verified).derivedFrom.length ≤ options.maxFanout) :
    Explored body resolve options root (s.visit body next depth rest verified) := by
  have hid := hbody next verified hresolve
  have hids : ids body (s.visit body next depth rest verified) = ids body s ++ [next] := by
    rw [ids, WalkState.visit, List.map_append, List.map_singleton, hid]
    rfl
  have hdistance := h.distance_next hfrontier hnew
  have hother : next ≠ root.ctxId := (h.ancestor_next hfrontier hnew).1
  have hfresh : next ∉ ids body s := fun hin => hnew ((h.seen next).mpr (.inr hin))
  have hparents : parentsOf body resolve root next = (body verified).derivedFrom := by
    rw [parentsOf, if_neg hother, hresolve]
  have hqueue := h.queue
  rw [hfrontier] at hqueue
  refine ⟨?_, fun c => ?_, ?_, ?_, ?_, ?_, ?_, ?_, ?_, ?_⟩
  · have hinsert : (· ∈ (s.visit body next depth rest verified).seen) = fun c : CtxId =>
      c ∈ s.seen ∨ c = next := by
      funext c
      exact propext (mem_insert_seen s.seen next c)
    rw [hinsert]
    refine hqueue.visit _ _ hnew _ (fun c hc => ?_) (fun c hc => ?_)
    · rw [Edge, hparents]
      exact List.mem_of_mem_filter hc
    · rw [Edge, hparents] at hc
      rw [List.mem_filter, decide_eq_true_eq, mem_insert_seen]
      exact (em _).imp_right (fun hout => ⟨hc, hout⟩)
  · rw [hids, List.mem_append, List.mem_singleton, ← or_assoc, ← h.seen c]
    exact mem_insert_seen s.seen next c
  · rw [hids, List.nodup_append]
    refine ⟨h.nodup, List.nodup_singleton next, fun c hc d hd heq => ?_⟩
    rw [List.mem_singleton] at hd
    exact hfresh (hd ▸ heq ▸ hc)
  · rw [hids, List.mem_append, List.mem_singleton, not_or]
    exact ⟨h.other, fun heq => hother heq.symm⟩
  · intro v hv
    rcases List.mem_append.mp hv with hv | hv
    · exact h.resolved v hv
    · rw [List.mem_singleton.mp hv, hid]
      exact hresolve
  · intro v hv
    rcases List.mem_append.mp hv with hv | hv
    · exact h.fanout v hv
    · rw [List.mem_singleton.mp hv]
      exact hfanout
  · rw [hids]
    intro c hc
    rcases List.mem_append.mp hc with hc | hc
    · exact h.depth c hc
    · rw [List.mem_singleton.mp hc]
      exact ⟨depth, hdepth, hdistance⟩
  · rw [hids, List.pairwise_append]
    refine ⟨h.order, List.pairwise_singleton _ _, fun c hc d hd m n hm hn => ?_⟩
    rw [List.mem_singleton.mp hd] at hn
    rw [hn.unique _ _ hdistance]
    exact hqueue.behind c m ((h.seen c).mpr (.inr hc)) hm (next, depth) List.mem_cons_self
  · change (s.results ++ [verified]).length ≤ _
    rw [List.length_append, List.length_singleton]
    omega
  · rw [hids]
    change s.requests ++ [next] = _
    rw [h.requests]

end New

theorem Explored.ancestor_iff (h : Explored body resolve options root s)
    (hfrontier : s.frontier = []) (c : CtxId) : c ∈ ids body s ↔ Ancestor body resolve root c := by
  constructor
  · intro hc
    refine ⟨fun heq => h.other (heq ▸ hc), ?_⟩
    obtain ⟨n, -, hn⟩ := h.depth c hc
    exact ⟨n, hn.1⟩
  · rintro ⟨hne, n, hreach⟩
    have hqueue := h.queue
    rw [hfrontier] at hqueue
    exact ((h.seen c).mp (hqueue.seen_of_empty _ _ n c hreach)).resolve_left hne

theorem Explored.walkable (h : Explored body resolve options root s) (hfrontier : s.frontier = [])
    (hroot : root.derivedFrom.length ≤ options.maxFanout) : Walkable body resolve root options := by
  have hresolved (c : CtxId) (hc : Ancestor body resolve root c) :
      ∃ v ∈ s.results, resolve c = .ok v := by
    obtain ⟨v, hv, hid⟩ := List.mem_map.mp ((h.ancestor_iff hfrontier c).mpr hc)
    exact ⟨v, hv, hid ▸ h.resolved v hv⟩
  refine ⟨hroot, fun c hc => ?_, fun c v hc hv => ?_, fun c n hc hn => ?_, fun l hl hall => ?_⟩
  · obtain ⟨v, -, hv⟩ := hresolved c hc
    exact ⟨v, hv⟩
  · obtain ⟨v', hin, hv'⟩ := hresolved c hc
    rw [hv'] at hv
    obtain rfl := Except.ok.inj hv
    exact h.fanout v' hin
  · obtain ⟨m, hle, hm⟩ := h.depth c ((h.ancestor_iff hfrontier c).mpr hc)
    rw [hn.unique _ _ hm]
    exact hle
  · have hsub : l ⊆ ids body s := fun c hc => (h.ancestor_iff hfrontier c).mpr (hall c hc)
    have hle := (List.subperm_of_subset hl hsub).length_le
    rw [ids, List.length_map] at hle
    exact hle.trans h.nodes

def measure (options : ResolverOptions) (s : WalkState V) : ℕ :=
  s.frontier.length + (options.maxNodes - s.results.length) * options.maxFanout

theorem turn_explored (hbody : ∀ c v, resolve c = .ok v → (body v).ctxId = c)
    (h : Explored body resolve options root s) :
    (∃ s', turn body resolve options s = .next s' ∧ Explored body resolve options root s' ∧
      measure options s' < measure options s) ∨
    (turn body resolve options s = .stop (.ok s.results) s.requests ∧ s.frontier = []) ∨
    ∃ e requests, turn body resolve options s = .stop (.error e) requests ∧
      requests.length ≤ options.maxNodes ∧ ¬ Walkable body resolve root options := by
  have hrequests : s.requests.length = s.results.length := by
    rw [h.requests, ids, List.length_map]
  unfold turn
  cases hfrontier : s.frontier with
  | nil => exact .inr (.inl ⟨rfl, rfl⟩)
  | cons p rest =>
    obtain ⟨next, depth⟩ := p
    dsimp only
    by_cases hseen : next ∈ s.seen
    · rw [if_pos hseen]
      refine .inl ⟨_, rfl, h.skip hfrontier hseen, ?_⟩
      rw [measure, measure, hfrontier, List.length_cons]
      dsimp only
      omega
    rw [if_neg hseen]
    have hancestor := h.ancestor_next hfrontier hseen
    have hdistance := h.distance_next hfrontier hseen
    by_cases hdepth : options.maxDepth < depth
    · rw [if_pos hdepth]
      refine .inr (.inr ⟨_, _, rfl, hrequests ▸ h.nodes, fun hwalkable => ?_⟩)
      exact absurd (hwalkable.depth next depth hancestor hdistance) (Nat.not_le.mpr hdepth)
    rw [if_neg hdepth]
    by_cases hnodes : options.maxNodes ≤ s.results.length
    · rw [if_pos hnodes]
      refine .inr (.inr ⟨_, _, rfl, hrequests ▸ h.nodes, fun hwalkable => ?_⟩)
      have hle := hwalkable.nodes (ids body s ++ [next]) ?_ ?_
      · rw [List.length_append, ids, List.length_map, List.length_singleton] at hle
        omega
      · rw [List.nodup_append]
        refine ⟨h.nodup, List.nodup_singleton next, fun c hc d hd heq => hseen ((h.seen next).mpr (.inr ?_))⟩
        rw [← List.mem_singleton.mp hd, ← heq]
        exact hc
      · intro c hc
        rcases List.mem_append.mp hc with hc | hc
        · obtain ⟨n, -, hn⟩ := h.depth c hc
          exact ⟨fun heq => h.other (heq ▸ hc), n, hn.1⟩
        · rw [List.mem_singleton.mp hc]
          exact hancestor
    rw [if_neg hnodes]
    have hcalled : (s.requests ++ [next]).length ≤ options.maxNodes := by
      rw [List.length_append, List.length_singleton]
      omega
    cases hresolve : resolve next with
    | error e =>
      refine .inr (.inr ⟨_, _, rfl, hcalled, fun hwalkable => ?_⟩)
      obtain ⟨v, hv⟩ := hwalkable.resolves next hancestor
      rw [hresolve] at hv
      cases hv
    | ok verified =>
      dsimp only
      by_cases hfanout : options.maxFanout < (body verified).derivedFrom.length
      · rw [if_pos hfanout]
        refine .inr (.inr ⟨_, _, rfl, hcalled, fun hwalkable => ?_⟩)
        exact absurd (hwalkable.fanout next verified hancestor hresolve) (Nat.not_le.mpr hfanout)
      · rw [if_neg hfanout]
        refine .inl ⟨_, rfl, h.visit hfrontier hseen hbody verified hresolve (Nat.not_lt.mp hdepth)
          (Nat.not_le.mp hnodes) (Nat.not_lt.mp hfanout), ?_⟩
        have hadded := List.length_filter_le (fun c => decide (c ∉ s.seen.insert next))
          (body verified).derivedFrom
        have hroom : options.maxNodes - s.results.length =
          options.maxNodes - (s.results.length + 1) + 1 := by omega
        rw [measure, measure, hfrontier, hroom, Nat.succ_mul, WalkState.visit]
        dsimp only
        rw [List.length_append, List.length_map, List.length_append, List.length_singleton, List.length_cons]
        omega

theorem loop_explored (hbody : ∀ c v, resolve c = .ok v → (body v).ctxId = c)
    (fuel : ℕ) (s : WalkState V)
    (h : Explored body resolve options root s) (hfuel : measure options s < fuel) :
    (∃ s', loop body resolve options fuel s = some (.ok s'.results, s'.requests) ∧ s'.frontier = [] ∧
      Explored body resolve options root s') ∨
    ∃ e requests, loop body resolve options fuel s = some (.error e, requests) ∧
      requests.length ≤ options.maxNodes ∧ ¬ Walkable body resolve root options := by
  induction fuel generalizing s with
  | zero => omega
  | succ fuel ih =>
    rw [loop]
    rcases turn_explored hbody h with ⟨s', hturn, hnext, hless⟩ | ⟨hturn, hend⟩ | ⟨e, requests,
      hturn, hrefused⟩
    · rw [hturn]
      exact ih s' hnext (by omega)
    · rw [hturn]
      exact .inl ⟨s, rfl, hend, h⟩
    · rw [hturn]
      exact .inr ⟨e, requests, rfl, hrefused⟩

end Invariant

section Exact

variable {V : Type} (body : V → Body) (resolve : CtxId → Except ClientError V)

/-- The results of a walk: every ancestor once, as it resolves, the nearer ones first. -/
structure IsAncestry (root : Body) (results : List V) : Prop where
  members : ∀ c, c ∈ results.map (fun v => (body v).ctxId) ↔ Ancestor body resolve root c
  nodup : (results.map (fun v => (body v).ctxId)).Nodup
  resolved : ∀ v ∈ results, resolve (body v).ctxId = .ok v
  order : (results.map (fun v => (body v).ctxId)).Pairwise (fun c d =>
    ∀ m n, Distance body resolve root m c → Distance body resolve root n d → m ≤ n)

/-- The walk ends after at most `max_nodes` resolutions, with the whole ancestry if that is within the
limits and resolves, and with an error if it is not. -/
theorem walk_derived_from_exact (hbody : ∀ c v, resolve c = .ok v → (body v).ctxId = c)
    (options : ResolverOptions) (root : Body) (fuel : ℕ)
    (hfuel : root.derivedFrom.length + options.maxNodes * options.maxFanout < fuel) :
    ∃ result requests, walkDerivedFromInner body resolve options fuel root = some (result, requests) ∧
      requests.length ≤ options.maxNodes ∧
      ((∃ results, result = .ok results) ↔ Walkable body resolve root options) ∧
      ∀ results, result = .ok results → IsAncestry body resolve root results := by
  unfold walkDerivedFromInner
  by_cases hroot : options.maxFanout < root.derivedFrom.length
  · rw [if_pos hroot]
    refine ⟨_, _, rfl, Nat.zero_le _, ⟨?_, fun hwalkable => ?_⟩, nofun⟩
    · rintro ⟨results, hok⟩
      cases hok
    · exact absurd hwalkable.rootFanout (Nat.not_le.mpr hroot)
  · rw [if_neg hroot]
    have hroot := Nat.not_lt.mp hroot
    have hstart : measure options (walkStart (V := V) root) < fuel := by
      rw [measure, walkStart]
      dsimp only
      rwa [List.length_map, List.length_nil, Nat.sub_zero]
    rcases loop_explored hbody fuel _ (explored_walkStart body resolve options root) hstart with
      ⟨s, hloop, hend, hexplored⟩ | ⟨e, requests, hloop, hcalls, hrefused⟩
    · have hcalls : s.requests.length ≤ options.maxNodes := by
        rw [hexplored.requests, ids, List.length_map]
        exact hexplored.nodes
      refine ⟨_, _, hloop, hcalls, ⟨fun _ => hexplored.walkable hend hroot, fun _ => ⟨_, rfl⟩⟩, ?_⟩
      intro results hresults
      obtain rfl := Except.ok.inj hresults
      exact ⟨hexplored.ancestor_iff hend, hexplored.nodup, hexplored.resolved, hexplored.order⟩
    · refine ⟨_, _, hloop, hcalls, ⟨?_, fun hwalkable => absurd hwalkable hrefused⟩, nofun⟩
      rintro ⟨results, hok⟩
      cases hok

end Exact

section Sample

def rootId : CtxId := "acdp://registry.example/00000000-0000-4000-8000-000000000000"

def leftId : CtxId := "acdp://left.example/00000000-0000-4000-8000-000000000001"

def rightId : CtxId := "acdp://right.example/00000000-0000-4000-8000-000000000002"

def sampleNode (ctxId : CtxId) (derivedFrom : List CtxId) : Body :=
  { Chain.sampleBody with ctxId := ctxId, derivedFrom := derivedFrom }

def sampleResolve (c : CtxId) : Except ClientError Body :=
  if c = leftId then .ok (sampleNode leftId [rightId, rootId])
  else if c = rightId then .ok (sampleNode rightId [leftId])
  else .error (.http "404 Not Found")

theorem sampleResolve_ctxId (c : CtxId) (v : Body) (h : sampleResolve c = .ok v) : v.ctxId = c := by
  unfold sampleResolve at h
  split at h
  next heq =>
    obtain rfl := Except.ok.inj h
    exact heq.symm
  next =>
    split at h
    next heq =>
      obtain rfl := Except.ok.inj h
      exact heq.symm
    next => cases h

theorem cyclic_walk_exact :
    walkDerivedFromInner id sampleResolve .default 3300 (sampleNode rootId [leftId, leftId, rightId]) =
        some (.ok [sampleNode leftId [rightId, rootId], sampleNode rightId [leftId]], [leftId, rightId]) ∧
      IsAncestry id sampleResolve (sampleNode rootId [leftId, leftId, rightId])
        [sampleNode leftId [rightId, rootId], sampleNode rightId [leftId]] := by
  obtain ⟨result, requests, hwalk, -, -, hancestry⟩ :=
    walk_derived_from_exact id sampleResolve sampleResolve_ctxId
      .default (sampleNode rootId [leftId, leftId, rightId]) 3300 (by decide)
  have hrun : walkDerivedFromInner id sampleResolve .default 3300
    (sampleNode rootId [leftId, leftId, rightId]) =
    some (.ok [sampleNode leftId [rightId, rootId], sampleNode rightId [leftId]], [leftId, rightId]) := by
    decide +kernel
  rw [hrun] at hwalk
  obtain ⟨rfl, rfl⟩ := Prod.mk.inj (Option.some.inj hwalk)
  exact ⟨hrun, hancestry _ rfl⟩

end Sample

end Acdp.Client.CrossRegistry
