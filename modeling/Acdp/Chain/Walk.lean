import Acdp.Chain.Evidence
import Acdp.Chain.Verdict
import Mathlib.Data.List.Lex
import Std.Data.ExtTreeSet

namespace Acdp.Chain

open Acdp.Types
open Std (ExtTreeMap ExtTreeSet)

structure Walk where
  depth : ExtTreeMap String ℕ
  edges : ExtTreeMap String (List String)
  frontier : List String
  control : Option Control
  roots : List String

structure WalkState where
  depth : ExtTreeMap String ℕ
  edges : ExtTreeMap String (List String)
  referenced : ExtTreeSet String
  fired : List (String × Control)
  timeout : Bool
  polls : ℕ
  next : List String

namespace WalkState

def admitRoot (limits : Limits) (s : WalkState) (r : String) : WalkState :=
  if s.depth.size < limits.maxNodes then
    { s with referenced := s.referenced.insert r, depth := s.depth.insert r 0 }
  else { s with referenced := s.referenced.insert r, fired := s.fired ++ [(r, .maxNodes)] }

def tooDeep (s : WalkState) (e : String) : WalkState :=
  { s with referenced := s.referenced.insert e, fired := s.fired ++ [(e, .maxDepth)] }

def follow (limits : Limits) (d : ℕ) (node : String) (s : WalkState) (p : String × ℕ) : WalkState :=
  let s := { s with referenced := s.referenced.insert p.1 }
  if limits.maxFanout ≤ p.2 then { s with fired := s.fired ++ [(p.1, .maxFanout)] }
  else
    let s := { s with edges := s.edges.insert node (s.edges.getD node [] ++ [p.1]) }
    if p.1 ∈ s.depth then s
    else if limits.maxNodes ≤ s.depth.size then { s with fired := s.fired ++ [(p.1, .maxNodes)] }
    else { s with depth := s.depth.insert p.1 (d + 1), next := s.next ++ [p.1] }

def expand (limits : Limits) (d : ℕ) (node : String) (derivedFrom : List String)
    (s : WalkState) : WalkState :=
  let distinct := derivedFrom.eraseDups
  if limits.maxDepth ≤ d then distinct.foldl tooDeep s
  else distinct.zipIdx.foldl (follow limits d node) s

def visit (successors : String → Option (List String)) (limits : Limits) (stop : ℕ → Bool) (d : ℕ)
    (s : WalkState) (node : String) : WalkState :=
  if s.timeout then s
  else if stop s.polls then { s with timeout := true, polls := s.polls + 1 }
  else match successors node with
    | none => { s with polls := s.polls + 1 }
    | some derivedFrom => expand limits d node derivedFrom { s with polls := s.polls + 1 }

/-- `while !level.is_empty()`; a level deeper than `max_depth` is empty, so `max_depth + 2` rounds suffice. -/
def levels (successors : String → Option (List String)) (limits : Limits) (stop : ℕ → Bool) :
    ℕ → ℕ → List String → WalkState → WalkState
  | 0, _, _, s => s
  | fuel + 1, d, level, s =>
    if level = [] ∨ s.timeout then s
    else
      let s := level.foldl (visit successors limits stop d) { s with next := [] }
      levels successors limits stop fuel (d + 1) (s.next.insertionSort (· ≤ ·)) s

end WalkState

def Parsed.successors (parsed : Parsed) (node : String) : Option (List String) :=
  (parsed.contexts[node]?).map (·.body.derivedFrom)

def walkStart (roots : List String) (limits : Limits) : WalkState :=
  roots.foldl (WalkState.admitRoot limits) ⟨∅, ∅, ∅, [], false, 0, []⟩

def walkEnd (roots : List String) (limits : Limits) (successors : String → Option (List String))
    (stop : ℕ → Bool) : WalkState :=
  WalkState.levels successors limits stop (limits.maxDepth + 2) 0 (walkStart roots limits).depth.keys
    (walkStart roots limits)

def walkFrom (roots : List String) (limits : Limits) (successors : String → Option (List String))
    (stop : ℕ → Bool) : Walk :=
  let roots := sorted roots
  let s := walkEnd roots limits successors stop
  { depth := s.depth
    edges := s.edges
    frontier := s.referenced.toList.filter (fun c => c ∉ s.depth)
    control := if s.timeout then some .timeout else (s.fired.find? (fun p => p.1 ∉ s.depth)).map Prod.snd
    roots := roots }

def walk (roots : List String) (parsed : Parsed) (limits : Limits) (stop : ℕ → Bool) : Walk :=
  walkFrom roots limits parsed.successors stop

structure TarjanState where
  index : ExtTreeMap String ℕ
  low : ExtTreeMap String ℕ
  onStack : ExtTreeSet String
  stack : List String
  next : ℕ
  out : ExtTreeSet String
  call : List (String × ℕ)

namespace TarjanState

def enter (s : TarjanState) (v : String) : TarjanState :=
  { s with
    index := s.index.insert v s.next
    low := s.low.insert v s.next
    next := s.next + 1
    stack := v :: s.stack
    onStack := s.onStack.insert v
    call := (v, 0) :: s.call }

def lower (s : TarjanState) (v : String) (n : ℕ) : TarjanState :=
  { s with low := s.low.insert v (min (s.low.getD v 0) n) }

def popComponent (w : Walk) (s : TarjanState) (v : String) : TarjanState :=
  let component := s.stack.takeWhile (· ≠ v) ++ [v]
  { s with
    stack := (s.stack.dropWhile (· ≠ v)).tail
    onStack := component.foldl (·.erase ·) s.onStack
    out := if 1 < component.length ∨ v ∈ w.edges.getD v [] then component.foldl (·.insert ·) s.out
      else s.out }

def step (w : Walk) (s : TarjanState) : TarjanState :=
  match s.call with
  | [] => s
  | (v, pos) :: rest =>
    match (w.edges.getD v [])[pos]? with
    | some u =>
      let s := { s with call := (v, pos + 1) :: rest }
      if u ∉ w.depth then s
      else if u ∉ s.index then s.enter u
      else if u ∈ s.onStack then s.lower v (s.index.getD u 0)
      else s
    | none =>
      let s := { s with call := rest }
      let s := match rest with
        | [] => s
        | (parent, _) :: _ => s.lower parent (s.low.getD v 0)
      if s.low.getD v 0 = s.index.getD v 0 then s.popComponent w v else s

def drain (w : Walk) : ℕ → TarjanState → TarjanState
  | 0, s => s
  | fuel + 1, s => if s.call = [] then s else drain w fuel (s.step w)

/-- Every edge is looked at once and every node is left once. -/
def fuel (w : Walk) : ℕ := (w.edges.toList.map (·.2.length)).sum + w.depth.size + 1

def start (w : Walk) (s : TarjanState) (v : String) : TarjanState :=
  if v ∈ s.index then s else drain w (fuel w) (s.enter v)

end TarjanState

def cycleNodes (w : Walk) : ExtTreeSet String :=
  (w.depth.keys.foldl (TarjanState.start w) ⟨∅, ∅, ∅, [], 0, ∅, []⟩).out

structure PathState where
  best : ExtTreeMap String (List String)
  queue : List String

namespace PathState

def admitRoot (w : Walk) (s : PathState) (r : String) : PathState :=
  if r ∈ w.depth then { best := s.best.insert r [r], queue := s.queue ++ [r] } else s

def offer (w : Walk) (best : ExtTreeMap String (List String)) (path : List String)
    (candidates : ExtTreeMap String (List String)) (u : String) : ExtTreeMap String (List String) :=
  if u ∈ best ∨ u ∉ w.depth then candidates
  else match candidates[u]? with
    | some existing => if existing ≤ path ++ [u] then candidates else candidates.insert u (path ++ [u])
    | none => candidates.insert u (path ++ [u])

def round (w : Walk) (s : PathState) : PathState :=
  let candidates := s.queue.foldl (fun candidates v =>
    (w.edges.getD v []).foldl (offer w s.best (s.best.getD v [])) candidates) ∅
  { best := candidates.toList.foldl (fun best p => best.insert p.1 p.2) s.best
    queue := candidates.keys }

def rounds (w : Walk) : ℕ → PathState → PathState
  | 0, s => s
  | fuel + 1, s => if s.queue = [] then s else rounds w fuel (s.round w)

end PathState

def shortestPaths (w : Walk) : ExtTreeMap String (List String) :=
  (PathState.rounds w (w.depth.size + 1) (w.roots.foldl (PathState.admitRoot w) ⟨∅, []⟩)).best

end Acdp.Chain
