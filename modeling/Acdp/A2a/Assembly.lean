import Acdp.A2a.Parts

namespace Acdp.A2a

open Acdp.Types
open Acdp.Types.Json (insertMember optional)
open Acdp.Foundation.Entries
open Acdp.Foundation.Transition

def linkKey : String := "io.agentcontextdistributionprotocol/provenance"

def terminalStates : List String :=
  ["TASK_STATE_COMPLETED", "TASK_STATE_FAILED", "TASK_STATE_CANCELED", "TASK_STATE_REJECTED"]

def roleAgent : String := "ROLE_AGENT"
def roleUser : String := "ROLE_USER"
def roleUnspecified : String := "ROLE_UNSPECIFIED"

def isTerminal (state : String) : Bool := state ∈ terminalStates

structure AssembledArtifact where
  artifactId : String
  role : Option String
  name : Option String
  description : Option String
  parts : List Json
  metadata : Option (List (String × Json))
deriving DecidableEq

namespace AssembledArtifact

def new (artifactId : String) : AssembledArtifact := ⟨artifactId, none, none, none, [], none⟩

variable (a : AssembledArtifact)

def recordRole : Option String := if a.role = some roleAgent then some roleAgent else none

def isClientWritten : Bool := a.role = some roleUser

def snapshotMetadata (link : Option Json) : List (String × Json) :=
  match link with
  | some l => insertMember (a.metadata.getD []) linkKey l
  | none => a.metadata.getD []

def toSnapshot (link : Option Json) : Json :=
  .obj ([("artifactId", .str a.artifactId)] ++ optional "name" .str a.name ++
    optional "description" .str a.description ++ [("parts", .arr a.parts)] ++
    (if a.snapshotMetadata link ≠ [] ∨
    a.metadata.isSome then [("metadata", .obj (a.snapshotMetadata link))] else []) ++
    optional "role" .str a.role)

end AssembledArtifact

inductive ChunkEffect where
  | pending
  | completed
deriving DecidableEq, Repr

structure Entry where
  art : AssembledArtifact
  complete : Bool
deriving DecidableEq

structure TaskAssembly where
  taskId : String
  contextId : String
  entries : List Entry
deriving DecidableEq

section Read

def strMember (o : List (String × Json)) (k : String) : Except PartError (Option String) :=
  match o.lookup k with
  | none => .ok none
  | some .null => .ok none
  | some (.str s) => .ok (some s)
  | some _ => .error ⟨k ++ " is not a string"⟩

/-- `Map::remove` of an order-preserving map: the last member moves into the gap. -/
def swapRemove (key : String) : List (String × Json) → List (String × Json)
  | [] => []
  | (k, v) :: rest =>
    if k = key then (rest.getLast?.map (· :: rest.dropLast)).getD [] else (k, v) :: swapRemove key rest

def ownMetadata (o : List (String × Json)) : Except PartError (Option (List (String × Json))) :=
  match o.lookup "metadata" with
  | none => .ok none
  | some .null => .ok none
  | some (.obj m) => .ok (some (swapRemove linkKey m))
  | some _ => .error ⟨"Artifact.metadata is not an object"⟩

def artifactIdOf (o : List (String × Json)) : Except PartError String := do
  match ← strMember o "artifactId" with
  | none => .error ⟨"artifact has no artifactId"⟩
  | some id => .ok id

def partsOf (env : A2aEnv) (o : List (String × Json)) : Except PartError (List Json) :=
  match o.lookup "parts" with
  | none => .ok []
  | some .null => .ok []
  | some (.arr p) => normalizeParts env p
  | some _ => .error ⟨"parts is not an array"⟩

structure ArtifactFields where
  parts : List Json
  name : Option String
  description : Option String
  role : Option String
  metadata : Option (List (String × Json))

def artifactFields (env : A2aEnv) (o : List (String × Json)) : Except PartError ArtifactFields := do
  let parts ← partsOf env o
  let name ← strMember o "name"
  let description ← strMember o "description"
  let role ← strMember o "role"
  let metadata ← ownMetadata o
  return ⟨parts, name, description, role, metadata⟩

structure Chunk where
  artifactId : String
  fields : ArtifactFields
  append : Bool
  last : Bool

end Read

def Chunk.apply (c : Chunk) (e : Entry) : Entry where
  art := {
    artifactId := e.art.artifactId
    role := c.fields.role.or e.art.role
    name := c.fields.name.or e.art.name
    description := c.fields.description.or e.art.description
    parts := if c.append then e.art.parts ++ c.fields.parts else c.fields.parts
    metadata := c.fields.metadata.or e.art.metadata }
  complete := c.last

def Entry.new (id : String) : Entry := ⟨.new id, false⟩

def updateEntry (id : String) (f : Entry → Entry) : List Entry → List Entry
  | [] => [f (Entry.new id)]
  | e :: rest => if e.art.artifactId = id then f e :: rest else e :: updateEntry id f rest

namespace TaskAssembly

def new (taskId contextId : String) : TaskAssembly := ⟨taskId, contextId, []⟩

variable (env : A2aEnv) (s : TaskAssembly)

def update (id : String) (f : Entry → Entry) : TaskAssembly :=
    { s with entries := updateEntry id f s.entries }

def entry (id : String) : Option Entry := s.entries.find? (fun e => e.art.artifactId = id)

def artifact (id : String) : Option AssembledArtifact := (s.entry id).map (·.art)

def isComplete (id : String) : Bool := s.entries.any (fun e => e.art.artifactId = id && e.complete)

def artifacts : List AssembledArtifact := s.entries.map (·.art)

def readChunk (chunk : Json) : Except PartError Chunk :=
  match chunk.asObject with
  | none => .error ⟨"a chunk is not an object"⟩
  | some c => do
    let taskId ← strMember c "taskId"
    if taskId.any (· ≠ s.taskId) then
      .error ⟨"chunk taskId " ++ taskId.getD "" ++ " is not this task's " ++ s.taskId⟩
    match (c.lookup "artifact").bind Json.asObject with
    | none => .error ⟨"chunk has no artifact object"⟩
    | some a => do
      let id ← artifactIdOf a
      let fields ← artifactFields env a
      return ⟨id, fields, ((c.lookup "append").bind Json.asBool).getD false,
        ((c.lookup "lastChunk").bind Json.asBool).getD false⟩

def ingestChunk (chunk : Json) : TaskAssembly × Except PartError ChunkEffect :=
  match s.readChunk env chunk with
  | .error e => (s, .error e)
  | .ok c => (s.update c.artifactId c.apply, .ok (if c.last then .completed else .pending))

def adopt (a : Json) : TaskAssembly × Except PartError String :=
  match a.asObject with
  | none => (s, .error ⟨"a Task artifact is not an object"⟩)
  | some o =>
    match artifactIdOf o with
    | .error e => (s, .error e)
    | .ok id =>
      if s.entries.any (fun e => e.art.artifactId = id) then (s, .ok id)
      else match artifactFields env o with
        | .error e => (s, .error e)
        | .ok f =>
          ({ s with
            entries := s.entries ++ [⟨⟨id, f.role, f.name, f.description, f.parts, f.metadata⟩, false⟩] },
              .ok id)

/-- The loop over the artifacts of a snapshot; those before one that is refused stay adopted. -/
def adoptAll : TaskAssembly → List Json → TaskAssembly × Except PartError (List String)
  | s, [] => (s, .ok [])
  | s, a :: rest =>
    match s.adopt env a with
    | (s', .error e) => (s', .error e)
    | (s', .ok id) =>
      match adoptAll s' rest with
      | (s'', .error e) => (s'', .error e)
      | (s'', .ok present) => (s'', .ok (id :: present))

def completeAll : TaskAssembly → List String → TaskAssembly × List String
  | s, [] => (s, [])
  | s, id :: rest =>
    if (s.entry id).any (·.complete) then completeAll s rest
    else
      let (s', done) := completeAll (s.update id (fun e => { e with complete := true })) rest
      (s', id :: done)

def stateOf (task : Json) : String := (((task.get "status").bind (·.get "state")).bind Json.asStr).getD ""

def artifactsOf (task : Json) : List Json := ((task.get "artifacts").bind Json.asArray).getD []

def ingestTask (task : Json) : TaskAssembly × Except PartError (List String) :=
  match s.adoptAll env (artifactsOf task) with
  | (s', .error e) => (s', .error e)
  | (s', .ok present) =>
    if ¬ isTerminal (stateOf task) then (s', .ok [])
    else
      let (s'', done) := s'.completeAll present
      (s'', .ok done)

end TaskAssembly

inductive IngestCall where
  | chunk (c : Json)
  | task (t : Json)

namespace TaskAssembly

variable (env : A2aEnv)

def ingest (s : TaskAssembly) : IngestCall → TaskAssembly
  | .chunk c => (s.ingestChunk env c).1
  | .task t => (s.ingestTask env t).1

def after (taskId contextId : String) (calls : List IngestCall) : TaskAssembly :=
  calls.foldl (ingest env) (.new taskId contextId)

end TaskAssembly

section Invariant

variable (env : A2aEnv) (P : TaskAssembly → Prop)

namespace TaskAssembly

theorem adoptAll_invariant (hadopt : ∀ s a, P s → P (s.adopt env a).1) (artifacts : List Json)
    (s : TaskAssembly) (hs : P s) : P (s.adoptAll env artifacts).1 := by
  induction artifacts generalizing s with
  | nil => exact hs
  | cons a rest ih =>
    have hfirst := hadopt s a hs
    unfold TaskAssembly.adoptAll
    cases hresult : s.adopt env a with
    | mk s' result =>
      rw [hresult] at hfirst
      cases result with
      | error e => exact hfirst
      | ok id =>
        have hrest := ih s' hfirst
        dsimp only
        cases hrestResult : s'.adoptAll env rest with
        | mk s'' restResult =>
          rw [hrestResult] at hrest
          cases restResult <;> exact hrest

theorem completeAll_invariant (hmark : ∀ s id, P s → P (s.update id (fun e => { e with complete := true })))
    (present : List String) (s : TaskAssembly) (hs : P s) : P (s.completeAll present).1 := by
  induction present generalizing s with
  | nil => exact hs
  | cons id rest ih =>
    unfold TaskAssembly.completeAll
    split
    · exact ih s hs
    · exact ih _ (hmark s id hs)

theorem ingestTask_invariant (hadopt : ∀ s a, P s → P (s.adopt env a).1)
    (hmark : ∀ s id, P s → P (s.update id (fun e => { e with complete := true }))) (s : TaskAssembly)
    (hs : P s) (task : Json) : P (s.ingestTask env task).1 := by
  have hadopted := adoptAll_invariant env P hadopt (artifactsOf task) s hs
  unfold TaskAssembly.ingestTask
  cases hresult : s.adoptAll env (artifactsOf task) with
  | mk s' result =>
    rw [hresult] at hadopted
    cases result with
    | error e => exact hadopted
    | ok present =>
      dsimp only
      split
      · exact hadopted
      · exact completeAll_invariant P hmark present s' hadopted

end TaskAssembly

end Invariant

section NormalParts

variable (env : A2aEnv) (hbase64 : Base64Laws env)

theorem forall_updateEntry (P : Entry → Prop) (id : String) (f : Entry → Entry) (entries : List Entry)
    (hentries : ∀ e ∈ entries, P e) (hnew : P (f (Entry.new id))) (hf : ∀ e, P e → P (f e)) :
    ∀ e ∈ updateEntry id f entries, P e := by
  induction entries with
  | nil => simpa [updateEntry] using hnew
  | cons e rest ih =>
    obtain ⟨he, hrest⟩ := List.forall_mem_cons.mp hentries
    rw [updateEntry]
    split
    · exact List.forall_mem_cons.mpr ⟨hf e he, hrest⟩
    · exact List.forall_mem_cons.mpr ⟨he, ih hrest⟩

namespace TaskAssembly

/-- Every artifact that is held has its parts in their A2A form. -/
def NormalParts (s : TaskAssembly) : Prop := ∀ e ∈ s.entries, Normal env e.art.parts

include hbase64 in
theorem artifactFields_normal (o : List (String × Json)) (fields : ArtifactFields)
    (h : artifactFields env o = .ok fields) : Normal env fields.parts := by
  obtain ⟨parts, hparts, h⟩ := bind_ok _ _ _ h
  obtain ⟨name, -, h⟩ := bind_ok _ _ _ h
  obtain ⟨description, -, h⟩ := bind_ok _ _ _ h
  obtain ⟨role, -, h⟩ := bind_ok _ _ _ h
  obtain ⟨metadata, -, h⟩ := bind_ok _ _ _ h
  obtain rfl := Except.ok.inj h
  unfold partsOf at hparts
  split at hparts
  · obtain rfl := Except.ok.inj hparts
    intro p hp
    cases hp
  · obtain rfl := Except.ok.inj hparts
    intro p hp
    cases hp
  · exact normal_of_normalizeParts env hbase64 _ _ hparts
  · cases hparts

theorem readChunk_fields (s : TaskAssembly) (chunk : Json) (c : Chunk) (h : s.readChunk env chunk = .ok c) :
    ∃ a, artifactIdOf a = .ok c.artifactId ∧ artifactFields env a = .ok c.fields := by
  unfold readChunk at h
  split at h
  · cases h
  obtain ⟨taskId, -, h⟩ := bind_ok _ _ _ h
  rw [guard_ok_iff] at h
  obtain ⟨-, h⟩ := h
  split at h
  · cases h
  next a _ =>
    obtain ⟨id, hid, h⟩ := bind_ok _ _ _ h
    obtain ⟨fields, hfields, h⟩ := bind_ok _ _ _ h
    obtain rfl := Except.ok.inj h
    exact ⟨a, hid, hfields⟩

include hbase64

theorem NormalParts.ingestChunk (s : TaskAssembly) (hs : s.NormalParts env) (chunk : Json) :
    (s.ingestChunk env chunk).1.NormalParts env := by
  unfold TaskAssembly.ingestChunk
  split
  · exact hs
  next c hc =>
    obtain ⟨a, -, hfields⟩ := readChunk_fields env s chunk c hc
    have hparts := artifactFields_normal env hbase64 a c.fields hfields
    have happly : ∀ e : Entry, Normal env e.art.parts → Normal env (c.apply e).art.parts := by
      intro e he
      change Normal env (if c.append then e.art.parts ++ c.fields.parts else c.fields.parts)
      split
      · intro p hp
        rcases List.mem_append.mp hp with hp | hp
        · exact he p hp
        · exact hparts p hp
      · exact hparts
    exact forall_updateEntry (fun e => Normal env e.art.parts) _ _ _ hs
      (happly _ (fun p hp => nomatch hp)) happly

theorem NormalParts.adopt (s : TaskAssembly) (hs : s.NormalParts env) (a : Json) :
    (s.adopt env a).1.NormalParts env := by
  unfold TaskAssembly.adopt
  split
  · exact hs
  split
  · exact hs
  split
  · exact hs
  split
  · exact hs
  next fields hfields =>
    intro e he
    rcases List.mem_append.mp he with he | he
    · exact hs e he
    · obtain rfl := List.mem_singleton.mp he
      exact artifactFields_normal env hbase64 _ fields hfields

theorem NormalParts.ingestTask (s : TaskAssembly) (hs : s.NormalParts env) (task : Json) :
    (s.ingestTask env task).1.NormalParts env := by
  refine ingestTask_invariant env (NormalParts env) (fun s a hs => NormalParts.adopt env hbase64 s hs a)
    (fun s id hs => ?_) s hs task
  exact forall_updateEntry (fun e => Normal env e.art.parts) _ _ _ hs (fun p hp => nomatch hp)
    (fun e he => he)

theorem after_normalParts (taskId contextId : String) (calls : List IngestCall) :
    (after env taskId contextId calls).NormalParts env := by
  refine foldl_invariant (ingest env) (fun _ s => s.NormalParts env) (fun _ call s hs => ?_) calls [] _
    (fun e he => nomatch he)
  cases call with
  | chunk c => exact NormalParts.ingestChunk env hbase64 s hs c
  | task t => exact NormalParts.ingestTask env hbase64 s hs t

end TaskAssembly

end NormalParts

end Acdp.A2a
