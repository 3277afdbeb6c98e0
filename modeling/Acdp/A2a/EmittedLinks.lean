import Acdp.A2a.Agreement
import Acdp.A2a.Ingest
import Acdp.A2a.Session

namespace Acdp.A2a

open Acdp.Types
open Acdp.Types.Json (insertMember)
open Acdp.Crypto (setMember)
open Acdp.Producer
open Acdp.Provenance
open Acdp.Foundation.Entries

section Assembly

variable (env : A2aEnv)

theorem ids_updateEntry (id : String) (f : Entry → Entry)
    (hf : ∀ e, (f e).art.artifactId = e.art.artifactId) (entries : List Entry) :
    (updateEntry id f entries).map (·.art.artifactId) =
      if id ∈ entries.map (·.art.artifactId) then entries.map (·.art.artifactId)
      else entries.map (·.art.artifactId) ++ [id] := by
  induction entries with
  | nil => simp [updateEntry, hf, Entry.new, AssembledArtifact.new]
  | cons e rest ih =>
    rw [updateEntry]
    by_cases he : e.art.artifactId = id
    · rw [if_pos he, List.map_cons, hf, if_pos (by simp [he])]
      rfl
    · rw [if_neg he, List.map_cons, ih]
      by_cases hrest : id ∈ rest.map (·.art.artifactId)
      · rw [if_pos hrest, List.map_cons, if_pos (List.mem_cons_of_mem _ hrest)]
      · rw [if_neg hrest, if_neg]
        · rfl
        · rw [List.map_cons, List.mem_cons, not_or]
          exact ⟨fun h => he h.symm, hrest⟩

theorem find_updateEntry (id k : String) (f : Entry → Entry)
    (hf : ∀ e, (f e).art.artifactId = e.art.artifactId) (entries : List Entry) :
    if k = id then ∃ e, (updateEntry id f entries).find? (fun e => e.art.artifactId = k) = some (f e)
    else (updateEntry id f entries).find? (fun e => e.art.artifactId = k) =
      entries.find? (fun e => e.art.artifactId = k) := by
  induction entries with
  | nil =>
    split
    next hk => exact ⟨Entry.new id, by simp [updateEntry, hf, Entry.new, AssembledArtifact.new, hk]⟩
    next hk =>
      have hne : ¬ id = k := fun h => hk h.symm
      simp [updateEntry, hf, Entry.new, AssembledArtifact.new, hne]
  | cons e rest ih =>
    rw [updateEntry]
    by_cases he : e.art.artifactId = id
    · split
      next hk => exact ⟨e, by rw [List.find?_cons, hf, he, hk, decide_eq_true rfl]⟩
      next hk => rw [List.find?_cons, List.find?_cons, hf, he, decide_eq_false (fun h => hk h.symm)]
    · split at ih
      next hk =>
        rw [if_pos hk, if_neg he, List.find?_cons, decide_eq_false (fun h => he (h.trans hk))]
        exact ih
      next hk => rw [if_neg hk, if_neg he, List.find?_cons, List.find?_cons, ih]

theorem adopt_cases (s : TaskAssembly) (a : Json) : (s.adopt env a).1 = s ∨
    ∃ e : Entry, e.complete = false ∧ e.art.artifactId ∉ s.ids ∧
      (s.adopt env a).1 = { s with entries := s.entries ++ [e] } := by
  unfold TaskAssembly.adopt
  split
  · exact .inl rfl
  split
  · exact .inl rfl
  split
  · exact .inl rfl
  next id _ hnew =>
    split
    · exact .inl rfl
    next fields _ =>
      refine .inr ⟨⟨⟨id, fields.role, fields.name, fields.description, fields.parts, fields.metadata⟩, false⟩,
        rfl, ?_, rfl⟩
      exact fun hin => hnew ((TaskAssembly.mem_ids_iff s id).mp hin)

/-- What every assembly of the task keeps: its ids, one entry for each artifact, parts in their A2A form. -/
structure Tidy (taskId contextId : String) (s : TaskAssembly) : Prop where
  taskId : s.taskId = taskId
  contextId : s.contextId = contextId
  unique : s.ids.Nodup
  normal : s.NormalParts env

variable {env} {taskId contextId : String} {s : TaskAssembly}

theorem Tidy.update (h : Tidy env taskId contextId s) (id : String) (f : Entry → Entry)
    (hf : ∀ e, (f e).art.artifactId = e.art.artifactId) (hnormal : (s.update id f).NormalParts env) :
    Tidy env taskId contextId (s.update id f) := by
  refine ⟨h.taskId, h.contextId, ?_, hnormal⟩
  change ((updateEntry id f s.entries).map (·.art.artifactId)).Nodup
  rw [ids_updateEntry id f hf]
  split
  · exact h.unique
  next hnew => exact h.unique.append (List.nodup_singleton id) (List.disjoint_singleton.mpr hnew)

variable (hbase64 : Base64Laws env)

include hbase64

theorem Tidy.ingestChunk (h : Tidy env taskId contextId s) (chunk : Json) :
    Tidy env taskId contextId (s.ingestChunk env chunk).1 := by
  have hnormal := TaskAssembly.NormalParts.ingestChunk env hbase64 s h.normal chunk
  unfold TaskAssembly.ingestChunk at hnormal ⊢
  split at hnormal
  · exact h
  next c _ => exact h.update c.artifactId c.apply (fun _ => rfl) hnormal

theorem Tidy.ingestTask (h : Tidy env taskId contextId s) (task : Json) :
    Tidy env taskId contextId (s.ingestTask env task).1 := by
  refine TaskAssembly.ingestTask_invariant env (Tidy env taskId contextId) (fun s a h => ?_)
    (fun s id h => ?_) s h task
  · have hnormal := TaskAssembly.NormalParts.adopt env hbase64 s h.normal a
    obtain heq | ⟨e, -, hnew, heq⟩ := adopt_cases env s a
    · rw [heq]
      exact h
    · rw [heq] at hnormal ⊢
      refine ⟨h.taskId, h.contextId, ?_, hnormal⟩
      rw [TaskAssembly.ids_append]
      exact h.unique.append (List.nodup_singleton _) (List.disjoint_singleton.mpr hnew)
  · exact h.update id _ (fun _ => rfl)
      (forall_updateEntry (fun e => Normal env e.art.parts) _ _ _ h.normal (fun p hp => nomatch hp)
        (fun e he => he))

end Assembly

section Ingest

variable (env : A2aEnv) (s : TaskAssembly)

/-- The artifacts complete in `s'` were so in `s`, with the same content, or are listed in `done`. -/
def CompletedBy (s' : TaskAssembly) (done : List String) : Prop :=
  ∀ id e, s'.entry id = some e → e.complete = true → id ∈ done ∨ s.entry id = some e

theorem adoptAll_completedBy (artifacts : List Json) : CompletedBy s (s.adoptAll env artifacts).1 [] := by
  refine TaskAssembly.adoptAll_invariant env (fun s' => CompletedBy s s' []) (fun s' a hs => ?_) artifacts s
    (fun id e he _ => .inr he)
  obtain heq | ⟨added, hadded, -, heq⟩ := adopt_cases env s' a
  · rwa [heq]
  · rw [heq]
    intro id e he hcomplete
    rw [TaskAssembly.entry, List.find?_append, Option.or_eq_some_iff] at he
    rcases he with he | ⟨-, he⟩
    · exact hs id e he hcomplete
    · obtain rfl := List.mem_singleton.mp (List.mem_of_find?_eq_some he)
      rw [hadded] at hcomplete
      cases hcomplete

theorem ingestTask_completedBy (task : Json) (s' : TaskAssembly) (done : List String)
    (h : s.ingestTask env task = (s', .ok done)) : CompletedBy s s' done := by
  by_cases hterminal : isTerminal (TaskAssembly.stateOf task) = true
  · have hlisted := TaskAssembly.ingestTask_terminal env s task done (by rw [h]) hterminal
    rw [h] at hlisted
    intro id e he _
    by_cases hid : id ∈ done
    · exact .inl hid
    · exact .inr ((hlisted.others id hid).symm.trans he)
  · have hadopted := adoptAll_completedBy env s (TaskAssembly.artifactsOf task)
    unfold TaskAssembly.ingestTask at h
    cases hresult : s.adoptAll env (TaskAssembly.artifactsOf task) with
    | mk s₁ result =>
      rw [hresult] at h hadopted
      cases result with
      | error e => cases h
      | ok present =>
        dsimp only at h
        rw [if_pos hterminal] at h
        cases h
        exact hadopted

theorem ingestTask_error_completedBy (task : Json) (s' : TaskAssembly) (e : PartError)
    (h : s.ingestTask env task = (s', .error e)) : CompletedBy s s' [] := by
  have hadopted := adoptAll_completedBy env s (TaskAssembly.artifactsOf task)
  unfold TaskAssembly.ingestTask at h
  cases hresult : s.adoptAll env (TaskAssembly.artifactsOf task) with
  | mk s₁ result =>
    rw [hresult] at h hadopted
    cases result with
    | error e => cases h; exact hadopted
    | ok present =>
      dsimp only at h
      split at h <;> cases h

theorem lookup_of_artifactIdOf (o : List (String × Json)) (id : String) (h : artifactIdOf o = .ok id) :
    o.lookup "artifactId" = some (.str id) := by
  obtain ⟨found, hfound, h⟩ := bind_ok _ _ _ h
  cases found with
  | none => cases h
  | some text =>
    obtain rfl := Except.ok.inj h
    unfold strMember at hfound
    split at hfound
    · cases hfound
    · cases hfound
    next s hs => rw [hs, Option.some.inj (Except.ok.inj hfound)]
    · cases hfound

theorem chunkArtifactId_of_readChunk (chunk : Json) (c : Chunk) (h : s.readChunk env chunk = .ok c) :
    chunkArtifactId chunk = c.artifactId := by
  unfold TaskAssembly.readChunk at h
  split at h
  · cases h
  next o ho =>
    obtain ⟨taskId, -, h⟩ := bind_ok _ _ _ h
    rw [guard_ok_iff] at h
    obtain ⟨-, h⟩ := h
    split at h
    · cases h
    next a ha =>
      obtain ⟨id, hid, h⟩ := bind_ok _ _ _ h
      obtain ⟨fields, -, h⟩ := bind_ok _ _ _ h
      obtain rfl := Except.ok.inj h
      obtain ⟨v, hv, hobj⟩ := Option.bind_eq_some_iff.mp ha
      have hlookup := lookup_of_artifactIdOf a id hid
      rw [Json.asObject_eq_some_iff] at hobj ho
      subst hobj ho
      simp [chunkArtifactId, artifactIdText, Json.get, Json.asObject, hv, hlookup, Json.asStr]

theorem ingestChunk_completedBy (chunk : Json) (s' : TaskAssembly) (effect : ChunkEffect)
    (h : s.ingestChunk env chunk = (s', .ok effect)) :
    CompletedBy s s' (if effect = .completed then [chunkArtifactId chunk] else []) := by
  unfold TaskAssembly.ingestChunk at h
  cases hread : s.readChunk env chunk with
  | error e =>
    rw [hread] at h
    cases h
  | ok c =>
    rw [hread] at h
    cases h
    intro id e he hcomplete
    have hfind := find_updateEntry c.artifactId id c.apply (fun _ => rfl) s.entries
    split at hfind
    next hid =>
      obtain ⟨e', he'⟩ := hfind
      obtain rfl := Option.some.inj (he.symm.trans he')
      have hlast : c.last = true := hcomplete
      simp [hlast, chunkArtifactId_of_readChunk env s chunk c hread, hid]
    next hid => exact .inr (hfind.symm.trans he)

end Ingest

/-- A session together with how each artifact's latest completion settled. -/
structure Trace where
  session : TaskSession
  latest : String → Option Settled

namespace Trace

variable (env : A2aEnv) (agent : Agent) (w : String → Surroundings)

def new (taskId contextId : String) : Trace := ⟨.new taskId contextId, fun _ => none⟩

def complete (t : Trace) (id : String) : Trace where
  session := (agent.complete env (w id) t.session id).1
  latest := Function.update t.latest id (some (agent.settle env (w id) t.session id))

@[simp] theorem complete_session (t : Trace) (id : String) :
    (t.complete env agent w id).session = (agent.complete env (w id) t.session id).1 := rfl

@[simp] theorem complete_latest (t : Trace) (id : String) : (t.complete env agent w id).latest =
    Function.update t.latest id (some (agent.settle env (w id) t.session id)) := rfl

def settleAll (t : Trace) (done : List String) : Trace := done.foldl (complete env agent w) t

def ingest (t : Trace) (assembly : TaskAssembly) : Trace :=
  { t with session := { t.session with assembly := assembly } }

def step (t : Trace) : SessionCall → Trace
  | .tell facts => { t with session := { t.session with toSessionFacts := facts } }
  | .onChunk w chunk =>
    match t.session.assembly.ingestChunk env chunk with
    | (assembly, .ok .completed) =>
      (t.ingest assembly).settleAll env agent (fun _ => w) [chunkArtifactId chunk]
    | (assembly, _) => t.ingest assembly
  | .onTask w task =>
    match t.session.assembly.ingestTask env task with
    | (assembly, .ok done) => (t.ingest assembly).settleAll env agent w done
    | (assembly, .error _) => t.ingest assembly

def run (taskId contextId : String) (calls : List SessionCall) : Trace :=
  calls.foldl (step env agent) (new taskId contextId)

theorem settleAll_session (t : Trace) (done : List String) :
    (t.settleAll env agent w done).session = agent.completeAll env w t.session done := by
  induction done generalizing t with
  | nil => rfl
  | cons id rest ih => exact ih (t.complete env agent w id)

theorem step_session (t : Trace) (call : SessionCall) :
    (t.step env agent call).session = agent.step env t.session call := by
  cases call with
  | tell facts => rfl
  | onChunk w chunk =>
    rw [step, Agent.step, Agent.onChunk]
    cases t.session.assembly.ingestChunk env chunk with
    | mk assembly result =>
      cases result with
      | error e => rfl
      | ok effect =>
        cases effect with
        | pending => rfl
        | completed =>
          change (agent.complete env w { t.session with assembly := assembly } (chunkArtifactId chunk)).1 = _
          dsimp only
          cases agent.complete env w { t.session with assembly := assembly } (chunkArtifactId chunk) with
          | mk s' outcome => cases outcome <;> rfl
  | onTask w task =>
    rw [step, Agent.step, Agent.onTask]
    cases t.session.assembly.ingestTask env task with
    | mk assembly result =>
      cases result with
      | error e => rfl
      | ok done => exact settleAll_session env agent w (t.ingest assembly) done

theorem run_session (taskId contextId : String) (calls : List SessionCall) :
    (run env agent taskId contextId calls).session =
      calls.foldl (agent.step env) (.new taskId contextId) := by
  rw [run]
  generalize hnew : new taskId contextId = t
  have hsession : TaskSession.new taskId contextId = t.session := by rw [← hnew]; rfl
  rw [hsession]
  clear hnew hsession
  induction calls generalizing t with
  | nil => rfl
  | cons call rest ih => rw [List.foldl_cons, List.foldl_cons, ih, step_session]

end Trace

section Completion

variable (env : A2aEnv) (agent : Agent) (w : Surroundings) (s : TaskSession) (id : String)

theorem checkInputs_assembly : (agent.checkInputs w s).assembly = s.assembly := by
  unfold Agent.checkInputs
  split <;> rfl

theorem checkInputs_hints : (agent.checkInputs w s).hints = s.hints := by
  unfold Agent.checkInputs
  split <;> rfl

theorem complete_frame : (agent.complete env w s id).1.assembly = s.assembly ∧
    (agent.complete env w s id).1.hints = s.hints := by
  unfold Agent.complete
  split
  · exact ⟨rfl, rfl⟩
  · exact ⟨checkInputs_assembly agent w s, checkInputs_hints agent w s⟩
  · exact ⟨checkInputs_assembly agent w s, checkInputs_hints agent w s⟩

theorem complete_links : (agent.complete env w s id).1.links =
    match (agent.settle env w s id).link env with
    | none => s.links
    | some link => Function.update s.links id (some link) := by
  unfold Agent.complete
  split
  next h => rw [h]; rfl
  next p h => rw [h]; rfl
  next policy code h => rw [h]; rfl

theorem policyFor_congr (s' : TaskSession) (hassembly : s'.assembly = s.assembly)
    (hhints : s'.hints = s.hints) : agent.policyFor s' id = agent.policyFor s id := by
  rw [Agent.policyFor, Agent.policyFor, hassembly, hhints]

theorem skips_congr (s' : TaskSession) (hassembly : s'.assembly = s.assembly) (hhints : s'.hints = s.hints) :
    agent.skips s' id = agent.skips s id := by
  rw [Agent.skips, Agent.skips, hassembly, hhints, policyFor_congr agent s id s' hassembly hhints]

theorem settle_of_skips (h : agent.skips s id = true) : agent.settle env w s id = .skipped := by
  unfold Agent.settle
  split
  · rfl
  · rw [if_pos h]

theorem settle_link_isSome (h : agent.skips s id = false) :
    ((agent.settle env w s id).link env).isSome = true := by
  unfold Agent.settle
  split
  next hnone =>
    rw [Agent.skips, hnone] at h
    cases h
  · rw [if_neg (by rw [h]; exact Bool.false_ne_true)]
    dsimp only
    split <;> rfl

theorem publish_of_prepare (c : Completion) (policy : ArtifactPolicy) (prepared : Prepared)
    (response : PublishResponse)
    (hprepared : prepare env agent.producer c policy.template policy.embedding w.freshSalt = .ok prepared)
    (hexternal : prepared.external = none) (hreply : w.reply prepared = .ok response) :
    agent.publish env w c policy = .ok ⟨c, policy, prepared, response⟩ := by
  rw [Agent.publish, hprepared]
  dsimp only
  rw [hexternal, hreply]
  rfl

theorem settle_of_publish (art : AssembledArtifact) (hart : s.assembly.artifact id = some art)
    (hskips : agent.skips s id = false) (p : Publication)
    (hpublish : agent.publish env w (agent.completion w (agent.checkInputs w s) id art
      ((s.hints id).getD .none) (agent.policyFor s id)) (agent.policyFor s id) = .ok p) :
    agent.settle env w s id = .published p := by
  rw [Agent.settle, hart]
  dsimp only
  rw [if_neg (by rw [hskips]; exact Bool.false_ne_true), hpublish]

structure PublishedAs (taskId contextId : String) (p : Publication) : Prop where
  protocol : p.completion.a2aProtocolVersion = agent.a2aProtocolVersion
  taskId : p.completion.taskId = taskId
  contextId : p.completion.contextId = contextId
  completedAt : InYears p.completion.completedAt
  prepared : ∃ freshSalt, prepare env agent.producer p.completion p.policy.template
    p.policy.embedding freshSalt = .ok p.prepared
  salt : p.prepared.salt.RoundTrips env.toSaltEnv

structure Surroundings.Sound : Prop where
  completedAt : InYears w.completedAt
  salt : ∀ salt, w.freshSalt = .ok salt → salt.RoundTrips env.toSaltEnv

theorem settle_published (hw : w.Sound env) (p : Publication) (h : agent.settle env w s id = .published p) :
    s.assembly.artifact id = some p.completion.artifact ∧ p.policy = agent.policyFor s id ∧
      PublishedAs env agent s.assembly.taskId s.assembly.contextId p := by
  unfold Agent.settle at h
  split at h
  · cases h
  next art hart =>
    split at h
    · cases h
    · dsimp only at h
      split at h
      next p' hpublish =>
        obtain rfl := Settled.published.inj h
        unfold Agent.publish at hpublish
        split at hpublish
        · cases hpublish
        next prepared hprepared =>
          split at hpublish
          · cases hpublish
          · split at hpublish
            · cases hpublish
            next response _ =>
              obtain rfl := Except.ok.inj hpublish
              obtain ⟨hsalt, -⟩ := prepare_ok env _ _ _ _ _ _ hprepared
              have hassembly := checkInputs_assembly agent w s
              exact ⟨hart, rfl, rfl, congrArg TaskAssembly.taskId hassembly,
                congrArg TaskAssembly.contextId hassembly, hw.completedAt, ⟨_, hprepared⟩, hw.salt _ hsalt⟩
      · cases h

end Completion

section Settling

variable (env : A2aEnv) (agent : Agent) (w : String → Surroundings)

/-- What settling the completed artifacts does to each of them, and leaves of the rest. -/
structure Settles (t t' : Trace) (done : List String) : Prop where
  assembly : t'.session.assembly = t.session.assembly
  hints : t'.session.hints = t.session.hints
  within : ∀ id ∈ done, ∃ s : TaskSession, s.assembly = t.session.assembly ∧ s.hints = t.session.hints ∧
    t'.latest id = some (agent.settle env (w id) s id)
  others : ∀ id ∉ done, t'.latest id = t.latest id
  kept : ∀ id, (t.session.links id).isSome → (t'.session.links id).isSome

/-- No completion is skipped whose artifact has a link. -/
def NoLinkSkipped (s : TaskSession) (done : List String) : Prop :=
  ∀ id ∈ done, agent.skips s id = true → s.links id = none

/-- The link of an artifact is the one its latest completion gave it. -/
def LinksLatest (t : Trace) : Prop := ∀ id, t.session.links id = (t.latest id).bind (Settled.link env)

variable {env agent}

theorem NoLinkSkipped.complete (t : Trace) (id : String) (rest : List String)
    (h : NoLinkSkipped agent t.session (id :: rest)) :
    NoLinkSkipped agent (t.complete env agent w id).session rest := by
  obtain ⟨hassembly, hhints⟩ := complete_frame env agent (w id) t.session id
  intro k hk hskips
  rw [Trace.complete_session] at hskips ⊢
  rw [skips_congr agent t.session k _ hassembly hhints] at hskips
  have hnone := h k (List.mem_cons_of_mem _ hk) hskips
  rw [complete_links]
  split
  · exact hnone
  next link hlink =>
    by_cases hkid : k = id
    · rw [← hkid, settle_of_skips env agent (w k) t.session k hskips] at hlink
      cases hlink
    · rw [Function.update_of_ne hkid, hnone]

theorem LinksLatest.complete (t : Trace) (id : String) (ht : LinksLatest env t)
    (h : agent.skips t.session id = true → t.session.links id = none) :
    LinksLatest env (t.complete env agent w id) := by
  intro k
  rw [Trace.complete_session, Trace.complete_latest, complete_links]
  by_cases hk : k = id
  · subst hk
    rw [Function.update_self]
    cases hskips : agent.skips t.session k with
    | true =>
      rw [settle_of_skips env agent (w k) t.session k hskips]
      exact h hskips
    | false =>
      obtain ⟨link, hlink⟩ :=
        Option.isSome_iff_exists.mp (settle_link_isSome env agent (w k) t.session k hskips)
      rw [hlink, Option.bind_some, hlink]
      exact Function.update_self ..
  · rw [Function.update_of_ne hk, ← ht k]
    split
    · rfl
    · exact Function.update_of_ne hk ..

theorem settleAll_linksLatest (done : List String) (t : Trace) (ht : LinksLatest env t)
    (h : NoLinkSkipped agent t.session done) : LinksLatest env (t.settleAll env agent w done) := by
  induction done generalizing t with
  | nil => exact ht
  | cons id rest ih =>
    exact ih (t.complete env agent w id) (ht.complete w t id (h id List.mem_cons_self))
      (h.complete w t id rest)

variable (env agent)

theorem settleAll_settles (done : List String) (t : Trace) :
    Settles env agent w t (t.settleAll env agent w done) done := by
  induction done generalizing t with
  | nil => exact ⟨rfl, rfl, by simp, fun _ _ => rfl, fun _ h => h⟩
  | cons id rest ih =>
    have hrest := ih (t.complete env agent w id)
    obtain ⟨hassembly, hhints⟩ := complete_frame env agent (w id) t.session id
    have hlatest : (t.complete env agent w id).latest id = some (agent.settle env (w id) t.session id) :=
      Function.update_self ..
    refine ⟨hrest.assembly.trans hassembly, hrest.hints.trans hhints, ?_, ?_, ?_⟩
    · intro k hk
      by_cases hkrest : k ∈ rest
      · obtain ⟨s, hs, hs', hsettled⟩ := hrest.within k hkrest
        exact ⟨s, hs.trans hassembly, hs'.trans hhints, hsettled⟩
      · obtain rfl := (List.mem_cons.mp hk).resolve_right hkrest
        exact ⟨t.session, rfl, rfl, (hrest.others k hkrest).trans hlatest⟩
    · intro k hk
      rw [List.mem_cons, not_or] at hk
      exact (hrest.others k hk.2).trans (Function.update_of_ne hk.1 ..)
    · intro k hk
      refine hrest.kept k ?_
      rw [Trace.complete_session, complete_links]
      split
      · exact hk
      · by_cases hkid : k = id
        · rw [hkid, Function.update_self]
          rfl
        · rwa [Function.update_of_ne hkid]

end Settling

section Emission

theorem linkOf_obj (members : List (String × Json)) :
    linkOf (.obj members) = (members.lookup "metadata").bind (·.get linkKey) := rfl

theorem linkOf_attach (members : List (String × Json)) (link l : Json)
    (h : linkOf (attach (.obj members) link) = some l) :
    l = link ∧ ∃ metadata, attach (.obj members) link = .obj (insertMember members "metadata" metadata) := by
  unfold attach at h ⊢
  dsimp only at h ⊢
  split at h
  · rw [linkOf_obj, lookup_insertMember, if_pos rfl] at h
    exact ⟨(Option.some.inj h).symm, _, rfl⟩
  next m _ =>
    rw [linkOf_obj, lookup_insertMember, if_pos rfl, Option.bind_some, Json.get, Json.asObject,
      Option.bind_some, lookup_insertMember, if_pos rfl] at h
    exact ⟨(Option.some.inj h).symm, _, rfl⟩
  next hnull hobj =>
    rw [linkOf_obj] at h
    obtain ⟨v, hv, h⟩ := Option.bind_eq_some_iff.mp h
    obtain ⟨m, hm, -⟩ := Option.bind_eq_some_iff.mp h
    rw [Json.asObject_eq_some_iff] at hm
    exact absurd (by rw [hv, hm]; rfl) (hobj m)

variable (s : TaskSession)

theorem artifactsOf_emit (task a : Json) (h : a ∈ TaskAssembly.artifactsOf (s.emit task).task) :
    ∃ b ∈ TaskAssembly.artifactsOf task, a = s.carry b := by
  unfold TaskSession.emit at h
  split at h
  next hnone =>
    rw [TaskAssembly.artifactsOf, hnone] at h
    cases h
  next arts harts =>
    obtain ⟨v, hv, harr⟩ := Option.bind_eq_some_iff.mp harts
    obtain ⟨members, hmembers, hlookup⟩ := Option.bind_eq_some_iff.mp hv
    rw [Json.asObject_eq_some_iff] at hmembers
    rw [hmembers, setMember] at h
    simp only [TaskAssembly.artifactsOf, Json.get, Json.asObject, Option.bind_some, lookup_insertMember,
      if_pos, Json.asArray, Option.getD_some, List.mem_map, List.mem_filter] at h
    obtain ⟨b, ⟨hb, -⟩, rfl⟩ := h
    exact ⟨b, by rw [TaskAssembly.artifactsOf, harts]; exact hb, rfl⟩

theorem entry_of_isComplete (assembly : TaskAssembly) (hunique : assembly.ids.Nodup) (id : String)
    (h : assembly.isComplete id = true) : ∃ e, assembly.entry id = some e ∧ e.complete = true := by
  obtain ⟨e, he, hcomplete⟩ := List.any_eq_true.mp h
  rw [Bool.and_eq_true, decide_eq_true_eq] at hcomplete
  obtain ⟨hid, hcomplete⟩ := hcomplete
  obtain ⟨found, hfound⟩ := (TaskAssembly.mem_ids_iff_entry assembly id).mp (List.mem_map.mpr ⟨e, he, hid⟩)
  have hsame : found = e := by
    refine List.inj_on_of_nodup_map hunique (List.mem_of_find?_eq_some hfound) he ?_
    have hkey := List.find?_some hfound
    rw [decide_eq_true_eq] at hkey
    exact hkey.trans hid.symm
  exact ⟨found, hfound, hsame ▸ hcomplete⟩

/-- What the agent attached to the listed artifact `b` and made of it. -/
structure Carried (b a link : Json) (id : String) (art : AssembledArtifact)
    (members held : List (String × Json)) : Prop where
  listed : b = .obj members
  emitted : a = .obj held
  artifactId : artifactIdText b = some id
  complete : s.assembly.isComplete id = true
  link : s.links id = some link
  artifact : s.assembly.artifact id = some art
  parts : held.lookup "parts" = some (.arr art.parts)
  others : ∀ k, k ≠ "parts" → k ≠ "metadata" → held.lookup k = members.lookup k

theorem carry_cases (b link : Json) (h : linkOf (s.carry b) = some link) :
    (s.carry b = b ∧ ∀ id art, artifactIdText b = some id → s.assembly.isComplete id = true →
      s.assembly.artifact id = some art → s.links id = none) ∨
    ∃ id art members held, Carried s b (s.carry b) link id art members held := by
  unfold TaskSession.carry at h ⊢
  cases hid : artifactIdText b with
  | none => exact .inl ⟨rfl, by simp⟩
  | some id =>
    rw [hid] at h
    dsimp only at h ⊢
    by_cases hcomplete : s.assembly.isComplete id = true
    · rw [if_pos hcomplete] at h ⊢
      cases hlink : s.links id with
      | none => exact .inl ⟨rfl, by rintro k art ⟨⟩ - -; exact hlink⟩
      | some l =>
        cases hart : s.assembly.artifact id with
        | none => exact .inl ⟨rfl, by rintro k art ⟨⟩ - hsome; rw [hart] at hsome; cases hsome⟩
        | some art =>
          rw [hlink, hart] at h
          dsimp only at h ⊢
          obtain ⟨v, hv, -⟩ := Option.bind_eq_some_iff.mp hid
          obtain ⟨members, hmembers, -⟩ := Option.bind_eq_some_iff.mp hv
          rw [Json.asObject_eq_some_iff] at hmembers
          subst hmembers
          obtain ⟨rfl, metadata, hattach⟩ := linkOf_attach _ l link h
          refine .inr ⟨id, art, members, _, rfl, hattach, hid, hcomplete, hlink, hart, ?_, ?_⟩
          · rw [lookup_insertMember, if_neg (by decide), lookup_insertMember, if_pos rfl]
          · intro k hparts hmetadata
            rw [lookup_insertMember, if_neg hmetadata, lookup_insertMember, if_neg hparts]
    · rw [if_neg hcomplete]
      exact .inl ⟨rfl, by rintro k art ⟨⟩ hk -; exact absurd hk hcomplete⟩

end Emission

section Careful

variable (env : A2aEnv) (agent : Agent)

/-- Whether a link names a body: one that records a failed publish does not. -/
def namesBody (link : Json) : Bool := link.asObject.any (fun members => (members.lookup "failed").isNone)

/-- The template of the record that the link of a complete artifact stands for, from the state before a
snapshot and the completions that the snapshot brings. -/
def Trace.templateOf (t : Trace) (assembly : TaskAssembly) (done : List String) (id : String) :
    Option BodyTemplate :=
  let s := { t.session with assembly := assembly }
  if id ∈ done then
    if agent.skips s id then none else some (agent.policyFor s id).template
  else match t.latest id with
    | some (.published p) => some p.policy.template
    | _ => none

/-- The snapshot lists the artifact under the labels that its record names, and brings a link to a body only
where the agent's own replaces it. -/
structure Presents (t : Trace) (assembly : TaskAssembly) (done : List String) (b : Json) : Prop where
  labels : ∀ id members art template, artifactIdText b = some id → b = .obj members →
    assembly.isComplete id = true → assembly.artifact id = some art →
    t.templateOf agent assembly done id = some template → Labels template art members
  replaced : ∀ link, linkOf b = some link → namesBody link = true →
    ∃ id, artifactIdText b = some id ∧ assembly.isComplete id = true ∧
      ((t.session.links id).isSome ∨ id ∈ done ∧
      agent.skips { t.session with assembly := assembly } id = false)

def SessionCall.Careful (t : Trace) : SessionCall → Prop
  | .tell _ => True
  | .onChunk w chunk => ∀ assembly, t.session.assembly.ingestChunk env chunk = (assembly, .ok .completed) →
    w.Sound env ∧ NoLinkSkipped agent { t.session with assembly := assembly } [chunkArtifactId chunk]
  | .onTask w task => ∀ assembly done, t.session.assembly.ingestTask env task = (assembly, .ok done) →
    (∀ id ∈ done, (w id).Sound env) ∧ NoLinkSkipped agent { t.session with assembly := assembly } done ∧
      ∀ b ∈ TaskAssembly.artifactsOf task, Presents agent t assembly done b

variable (taskId contextId : String)

/-- A run whose every call is careful in the state it meets. -/
def CarefulRun (calls : List SessionCall) : Prop :=
  ∀ earlier call later, calls = earlier ++ call :: later →
    call.Careful env agent (Trace.run env agent taskId contextId earlier)

structure Trace.Inv (t : Trace) : Prop where
  tidy : Tidy env taskId contextId t.session.assembly
  links : LinksLatest env t
  published : ∀ id p, t.latest id = some (.published p) → PublishedAs env agent taskId contextId p
  current : ∀ id e p, t.session.assembly.entry id = some e → e.complete = true →
    t.latest id = some (.published p) → p.completion.artifact = e.art

variable {env agent taskId contextId} {t : Trace}

theorem Trace.Inv.settleAll (ht : t.Inv env agent taskId contextId) (w : String → Surroundings)
    (assembly : TaskAssembly) (done : List String) (htidy : Tidy env taskId contextId assembly)
    (hcompleted : CompletedBy t.session.assembly assembly done) (hw : ∀ id ∈ done, (w id).Sound env)
    (hlinks : NoLinkSkipped agent { t.session with assembly := assembly } done) :
    ((t.ingest assembly).settleAll env agent w done).Inv env agent taskId contextId := by
  have hs := settleAll_settles env agent w done (t.ingest assembly)
  have hassembly : ((t.ingest assembly).settleAll env agent w done).session.assembly = assembly := hs.assembly
  have hsettled : ∀ id ∈ done, ∀ p,
      ((t.ingest assembly).settleAll env agent w done).latest id = some (.published p) →
      assembly.artifact id = some p.completion.artifact ∧ PublishedAs env agent taskId contextId p := by
    intro id hid p hp
    obtain ⟨s, hsame, -, hlatest⟩ := hs.within id hid
    rw [hlatest] at hp
    obtain ⟨hart, -, hpublished⟩ := settle_published env agent (w id) s id (hw id hid) p (Option.some.inj hp)
    rw [hsame] at hart hpublished
    refine ⟨hart, ?_⟩
    rw [← htidy.taskId, ← htidy.contextId]
    exact hpublished
  refine ⟨by rwa [hassembly], settleAll_linksLatest w done _ ht.links hlinks, ?_, ?_⟩
  · intro id p hp
    by_cases hid : id ∈ done
    · exact (hsettled id hid p hp).2
    · exact ht.published id p ((hs.others id hid).symm.trans hp)
  · intro id e p he hcomplete hp
    rw [hassembly] at he
    by_cases hid : id ∈ done
    · obtain ⟨hart, -⟩ := hsettled id hid p hp
      rw [TaskAssembly.artifact, he, Option.map_some] at hart
      exact (Option.some.inj hart).symm
    · have hbefore := (hcompleted id e he hcomplete).resolve_left hid
      exact ht.current id e p hbefore hcomplete ((hs.others id hid).symm.trans hp)

theorem Trace.Inv.step (hbase64 : Base64Laws env) (ht : t.Inv env agent taskId contextId) (call : SessionCall)
    (hcall : call.Careful env agent t) : (t.step env agent call).Inv env agent taskId contextId := by
  have hskip (assembly : TaskAssembly) : NoLinkSkipped agent { t.session with assembly := assembly } [] :=
    fun _ hid => absurd hid List.not_mem_nil
  cases call with
  | tell facts => exact ⟨ht.tidy, ht.links, ht.published, ht.current⟩
  | onChunk w chunk =>
    have htidy := ht.tidy.ingestChunk hbase64 chunk
    rw [SessionCall.Careful] at hcall
    rw [Trace.step]
    cases hresult : t.session.assembly.ingestChunk env chunk with
    | mk assembly result =>
      rw [hresult] at htidy
      cases result with
      | error e =>
        have hsame : assembly = t.session.assembly := by
          unfold TaskAssembly.ingestChunk at hresult
          split at hresult <;> cases hresult
          rfl
        exact ht.settleAll (fun _ => w) assembly [] htidy (fun id e he _ => .inr (hsame ▸ he)) (by simp)
          (hskip assembly)
      | ok effect =>
        have hcompleted := ingestChunk_completedBy env t.session.assembly chunk assembly effect hresult
        cases effect with
        | pending => exact ht.settleAll (fun _ => w) assembly [] htidy hcompleted (by simp) (hskip assembly)
        | completed =>
          obtain ⟨hw, hlinks⟩ := hcall assembly hresult
          exact ht.settleAll (fun _ => w) assembly _ htidy hcompleted (fun _ _ => hw) hlinks
  | onTask w task =>
    have htidy := ht.tidy.ingestTask hbase64 task
    rw [SessionCall.Careful] at hcall
    rw [Trace.step]
    cases hresult : t.session.assembly.ingestTask env task with
    | mk assembly result =>
      rw [hresult] at htidy
      cases result with
      | error e =>
        exact ht.settleAll w assembly [] htidy (ingestTask_error_completedBy env _ task assembly e hresult)
          (by simp) (hskip assembly)
      | ok done =>
        obtain ⟨hw, hlinks, -⟩ := hcall assembly done hresult
        exact ht.settleAll w assembly done htidy (ingestTask_completedBy env _ task assembly done hresult) hw
          hlinks

theorem Trace.Inv.new : (Trace.new taskId contextId).Inv env agent taskId contextId where
  tidy := ⟨rfl, rfl, List.nodup_nil, fun e he => absurd he List.not_mem_nil⟩
  links := fun _ => rfl
  published := fun _ _ h => by cases h
  current := fun _ _ _ _ _ h => by cases h

theorem CarefulRun.inv (hbase64 : Base64Laws env) (calls : List SessionCall)
    (h : CarefulRun env agent taskId contextId calls) :
    (Trace.run env agent taskId contextId calls).Inv env agent taskId contextId := by
  induction calls using List.reverseRecOn with
  | nil => exact Trace.Inv.new
  | append_singleton earlier call ih =>
    have hearlier : CarefulRun env agent taskId contextId earlier := by
      intro before c later heq
      exact h before c (later ++ [call]) (by rw [heq, List.append_assoc, List.cons_append])
    rw [Trace.run, List.foldl_append]
    exact (ih hearlier).step hbase64 call (h earlier call [] rfl)

theorem CarefulRun.nil : CarefulRun env agent taskId contextId [] := by
  intro earlier call later h
  simp at h

theorem CarefulRun.snoc (calls : List SessionCall) (h : CarefulRun env agent taskId contextId calls)
    (call : SessionCall) (hcall : call.Careful env agent (Trace.run env agent taskId contextId calls)) :
    CarefulRun env agent taskId contextId (calls ++ [call]) := by
  intro earlier c later heq
  obtain rfl | ⟨before, x, rfl⟩ := List.eq_nil_or_concat later
  · obtain ⟨rfl, hc⟩ := List.append_inj' heq rfl
    obtain rfl := (List.cons.inj hc).1
    exact hcall
  · rw [List.concat_eq_append, ← List.cons_append, ← List.append_assoc] at heq
    obtain ⟨rfl, -⟩ := List.append_inj' heq rfl
    exact h earlier c before rfl

end Careful

section Verified

variable {env : A2aEnv} {agent : Agent} {taskId contextId : String} {t : Trace}
    {b a link : Json} {id : String} {art : AssembledArtifact} {members held : List (String × Json)}

theorem Labels.congr (template : BodyTemplate)
    (hothers : ∀ k, k ≠ "parts" → k ≠ "metadata" → held.lookup k = members.lookup k)
    (h : Labels template art members) : Labels template art held := by
  have hname := hothers "name" (by decide) (by decide)
  have hdescription := hothers "description" (by decide) (by decide)
  have hrole := hothers "role" (by decide) (by decide)
  refine ⟨by rw [hname]; exact h.name, by rw [hdescription]; exact h.description, fun hagent => ?_⟩
  rw [← h.role hagent, heldRole, heldRole, hrole]

theorem artifactIdText_obj (o : List (String × Json)) :
    artifactIdText (.obj o) = (o.lookup "artifactId").bind Json.asStr := rfl

theorem Carried.artifactId_emitted (h : Carried t.session b a link id art members held) :
    artifactIdText a = some id := by
  have hid := h.artifactId
  rw [h.listed, artifactIdText_obj] at hid
  rw [h.emitted, artifactIdText_obj, h.others "artifactId" (by decide) (by decide), hid]

theorem Carried.verifies (hchrono : ∀ t, InYears t → IsRfc3339Ms (env.fmtRfc3339Ms t))
    (hversion : agent.a2aProtocolVersion ≠ "") (ht : t.Inv env agent taskId contextId)
    (h : Carried t.session b a link id art members held) (hlink : linkOf a = some link) (p : Publication)
    (hp : t.latest id = some (.published p)) (hlabels : Labels p.policy.template art members)
    (status : Option Status) :
    verifyAgainstBody env p.body status ⟨a, some taskId, some contextId⟩ ⟨.deferToCaller, none⟩ =
      .ok ⟨p.response.ctxId, agent.producer.agentId, status, true, true⟩ := by
  obtain ⟨e, he, hcomplete⟩ := entry_of_isComplete t.session.assembly ht.tidy.unique id h.complete
  have hart := h.artifact
  rw [TaskAssembly.artifact, he, Option.map_some] at hart
  have hcurrent := ht.current id e p he hcomplete hp
  rw [Option.some.inj hart] at hcurrent
  obtain ⟨hprotocol, htask, hcontext, hcompleted, ⟨freshSalt, hprepared⟩, hsalt⟩ := ht.published id p hp
  obtain ⟨-, embedded, artifactIdHash, taskIdHash, contextIdHash, partsDigest, hfrom⟩ :=
    prepare_ok env _ _ _ _ _ _ hprepared
  have hpublished : link = p.link env := by
    have hlatest := ht.links id
    rw [h.link, hp] at hlatest
    exact Option.some.inj hlatest
  have hnormal : Normal env art.parts := by
    rw [← Option.some.inj hart]
    exact ht.tidy.normal e (List.mem_of_find?_eq_some he)
  have hparts : heldParts env held = .ok p.completion.artifact.parts := by
    have hnormalized : normalizeParts env art.parts = .ok art.parts :=
      (normalizeParts_ok_iff env _ _).mpr (List.forall₂_same.mpr hnormal)
    rw [heldParts, h.parts, hcurrent]
    dsimp only
    rw [hnormalized]
  have hid : (held.lookup "artifactId").bind Json.asStr = some p.completion.artifact.artifactId := by
    have htext := h.artifactId_emitted
    rw [h.emitted, artifactIdText_obj] at htext
    have hkey := List.find?_some he
    rw [decide_eq_true_eq, Option.some.inj hart, ← hcurrent] at hkey
    rw [htext, hkey]
  have hmatches : Matches env p.completion p.policy.template held :=
    ⟨hparts, hid, hcurrent ▸ hlabels.congr _ h.others⟩
  exact verifyAgainstBody_prepared env p.completion p.policy.template agent.producer p.prepared embedded
    artifactIdHash taskIdHash contextIdHash partsDigest hfrom (hprotocol ▸ hversion) hcompleted hchrono hsalt
    p.response.ctxId p.response.lineageId p.response.createdAt status ⟨a, some taskId, some contextId⟩ held
    h.emitted (hlink.trans (congrArg some hpublished)) hmatches (by rintro i ⟨⟩; exact htask.symm)
    (by rintro i ⟨⟩; exact hcontext.symm)

/-- The template of `templateOf` is the one that the publication in the end was prepared from. -/
theorem templateOf_settleAll (w : String → Surroundings) (assembly : TaskAssembly) (done : List String)
    (hw : ∀ id ∈ done, (w id).Sound env) (id : String) (p : Publication)
    (hp : ((t.ingest assembly).settleAll env agent w done).latest id = some (.published p)) :
    t.templateOf agent assembly done id = some p.policy.template := by
  have hs := settleAll_settles env agent w done (t.ingest assembly)
  unfold Trace.templateOf
  split
  next hid =>
    obtain ⟨s, hassembly, hhints, hlatest⟩ := hs.within id hid
    rw [hlatest] at hp
    have hskips : agent.skips s id = false := by
      by_contra hskips
      rw [Bool.not_eq_false] at hskips
      rw [settle_of_skips env agent (w id) s id hskips] at hp
      cases hp
    rw [skips_congr agent (t.ingest assembly).session id s hassembly hhints] at hskips
    rw [if_neg (by rw [Bool.not_eq_true]; exact hskips)]
    obtain ⟨-, hpolicy, -⟩ := settle_published env agent (w id) s id (hw id hid) p (Option.some.inj hp)
    rw [hpolicy, policyFor_congr agent (t.ingest assembly).session id s hassembly hhints]
    rfl
  next hid =>
    have hbefore : t.latest id = some (.published p) := (hs.others id hid).symm.trans hp
    rw [hbefore]

theorem settleAll_links_isSome (w : String → Surroundings) (assembly : TaskAssembly) (done : List String)
    (ht : LinksLatest env ((t.ingest assembly).settleAll env agent w done)) (id : String)
    (h : (t.session.links id).isSome ∨
      id ∈ done ∧ agent.skips { t.session with assembly := assembly } id = false) :
    (((t.ingest assembly).settleAll env agent w done).session.links id).isSome := by
  have hs := settleAll_settles env agent w done (t.ingest assembly)
  rcases h with h | ⟨hid, hskips⟩
  · exact hs.kept id h
  · obtain ⟨s, hassembly, hhints, hlatest⟩ := hs.within id hid
    rw [ht id, hlatest]
    refine settle_link_isSome env agent (w id) s id ?_
    rw [skips_congr agent (t.ingest assembly).session id s hassembly hhints]
    exact hskips

end Verified

/-- What the link of an emitted artifact says: a body that it names is the one of the artifact's latest
completion, and verifies with the artifact held; where the latest completion published nothing, the link names
no body, and is that completion's own unless the snapshot brought it. -/
structure LinkMatches (env : A2aEnv) (agent : Agent) (taskId contextId : String) (t : Trace)
    (task a link : Json) : Prop where
  verifies : namesBody link = true → ∃ id p, artifactIdText a = some id ∧ t.latest id = some (.published p) ∧
    link = p.link env ∧ ∀ status,
      verifyAgainstBody env p.body status ⟨a, some taskId, some contextId⟩ ⟨.deferToCaller, none⟩ =
        .ok ⟨p.response.ctxId, agent.producer.agentId, status, true, true⟩
  latest : ∀ id, artifactIdText a = some id → (∀ p, t.latest id ≠ some (.published p)) →
    namesBody link = false ∧
      ((t.latest id).bind (Settled.link env) = some link ∨ a ∈ TaskAssembly.artifactsOf task)

section Emitted

variable {env : A2aEnv} {agent : Agent} {taskId contextId : String} {t : Trace} {a link : Json}

theorem namesBody_failed (code : Option String) : namesBody (failed code) = false := by
  simp [namesBody, failed, Json.asObject]

theorem Trace.Inv.emitted (hchrono : ∀ t, InYears t → IsRfc3339Ms (env.fmtRfc3339Ms t))
    (hversion : agent.a2aProtocolVersion ≠ "") (w : String → Surroundings) (assembly : TaskAssembly)
    (done : List String) (hw : ∀ id ∈ done, (w id).Sound env) (task : Json)
    (hpresents : ∀ b ∈ TaskAssembly.artifactsOf task, Presents agent t assembly done b) (t' : Trace)
    (ht' : t' = (t.ingest assembly).settleAll env agent w done) (hinv : t'.Inv env agent taskId contextId)
    (ha : a ∈ TaskAssembly.artifactsOf (t'.session.emit task).task) (hlink : linkOf a = some link) :
    LinkMatches env agent taskId contextId t' task a link := by
  have hassembly : t'.session.assembly = assembly := by
    rw [ht']
    exact (settleAll_settles env agent w done (t.ingest assembly)).assembly
  obtain ⟨b, hb, rfl⟩ := artifactsOf_emit t'.session task a ha
  obtain ⟨hsame, hnone⟩ | ⟨id, art, members, held, hcarried⟩ := carry_cases t'.session b link hlink
  · -- the artifact is emitted as it was listed
    rw [hsame] at hlink
    have hfalse : namesBody link = false := by
      by_contra hnames
      rw [Bool.not_eq_false] at hnames
      obtain ⟨id, hid, hcomplete, hlinked⟩ := (hpresents b hb).replaced link hlink hnames
      rw [← hassembly] at hcomplete
      obtain ⟨e, he, -⟩ := entry_of_isComplete t'.session.assembly hinv.tidy.unique id hcomplete
      have hart : t'.session.assembly.artifact id = some e.art := by
        rw [TaskAssembly.artifact, he, Option.map_some]
      have hsome := settleAll_links_isSome w assembly done (ht' ▸ hinv.links) id hlinked
      rw [← ht', hnone id e.art hid hcomplete hart] at hsome
      cases hsome
    exact ⟨fun hnames => absurd hnames (by rw [hfalse]; exact Bool.false_ne_true),
      fun _ _ _ => ⟨hfalse, .inr (hsame.symm ▸ hb)⟩⟩
  · -- the agent attached the link of the latest completion
    have hlatest := hinv.links id
    rw [hcarried.link] at hlatest
    obtain ⟨settled, hsettled, hof⟩ := Option.bind_eq_some_iff.mp hlatest.symm
    have hemitted := hcarried.artifactId_emitted
    constructor
    · intro hnames
      cases settled with
      | skipped => cases hof
      | failed policy code =>
        rw [← Option.some.inj hof, namesBody_failed] at hnames
        cases hnames
      | published p =>
        have htemplate := templateOf_settleAll w assembly done hw id p (ht' ▸ hsettled)
        have hlabels := (hpresents b hb).labels id members art p.policy.template hcarried.artifactId
          hcarried.listed (hassembly ▸ hcarried.complete) (hassembly ▸ hcarried.artifact) htemplate
        exact ⟨id, p, hemitted, hsettled, (Option.some.inj hof).symm,
          fun status => hcarried.verifies hchrono hversion hinv hlink p hsettled hlabels status⟩
    · intro k hk hp
      obtain rfl := Option.some.inj (hemitted.symm.trans hk)
      refine ⟨?_, .inl hlatest.symm⟩
      cases settled with
      | skipped => cases hof
      | failed policy code => rw [← Option.some.inj hof, namesBody_failed]
      | published p => exact absurd hsettled (hp p)

end Emitted

/-- Along every careful run, whatever link to a body an emitted artifact carries is the one of its latest
completion, and verifies with that artifact held; no artifact carries the link of an earlier completion. -/
theorem emitted_links_match (env : A2aEnv) (hbase64 : Base64Laws env)
    (hchrono : ∀ t, InYears t → IsRfc3339Ms (env.fmtRfc3339Ms t)) (agent : Agent)
    (hversion : agent.a2aProtocolVersion ≠ "") (taskId contextId : String) (calls : List SessionCall)
    (w : String → Surroundings) (task : Json)
    (hcareful : CarefulRun env agent taskId contextId (calls ++ [.onTask w task])) (out : TaskOutput)
    (hout : (agent.onTask env w (calls.foldl (agent.step env) (.new taskId contextId)) task).2 = .ok out)
    (a : Json) (ha : a ∈ TaskAssembly.artifactsOf out.task) (link : Json) (hlink : linkOf a = some link) :
    LinkMatches env agent taskId contextId (Trace.run env agent taskId contextId (calls ++ [.onTask w task]))
      task a link := by
  have hinv := hcareful.inv hbase64
  have hlast : (SessionCall.onTask w task).Careful env agent (Trace.run env agent taskId contextId calls) :=
    hcareful calls _ [] rfl
  have hrun : Trace.run env agent taskId contextId (calls ++ [.onTask w task]) =
      (Trace.run env agent taskId contextId calls).step env agent (.onTask w task) := by
    rw [Trace.run, List.foldl_append]
    rfl
  rw [← Trace.run_session] at hout
  rw [hrun] at hinv ⊢
  rw [SessionCall.Careful] at hlast
  generalize Trace.run env agent taskId contextId calls = t at hinv hlast hout ⊢
  have hsession : (t.step env agent (.onTask w task)).session = (agent.onTask env w t.session task).1 :=
    Trace.step_session env agent t _
  cases hresult : t.session.assembly.ingestTask env task with
  | mk assembly result =>
    cases result with
    | error e =>
      rw [Agent.onTask, hresult] at hout
      cases hout
    | ok done =>
      obtain ⟨hw, -, hpresents⟩ := hlast assembly done hresult
      rw [Agent.onTask, hresult] at hout hsession
      dsimp only at hout hsession
      obtain rfl := Except.ok.inj hout
      rw [← hsession] at ha
      have hstep : t.step env agent (.onTask w task) = (t.ingest assembly).settleAll env agent w done := by
        rw [Trace.step, hresult]
      exact hinv.emitted hchrono hversion w assembly done hw task hpresents _ hstep ha hlink

theorem complete_published (env : A2aEnv) (agent : Agent) (w : String → Surroundings)
    (t : Trace) (id : String) (p : Publication) (h : agent.settle env (w id) t.session id = .published p) :
    (t.complete env agent w id).latest id = some (.published p) ∧
      (t.complete env agent w id).session.links id = some (p.link env) ∧
      (t.complete env agent w id).session.withheld id = false := by
  rw [Trace.complete_session, Trace.complete_latest, Agent.complete, h]
  exact ⟨Function.update_self .., Function.update_self .., Function.update_self ..⟩

theorem onTask_of_unchanged (env : A2aEnv) (agent : Agent) (w : String → Surroundings) (s : TaskSession)
    (task : Json) (h : s.assembly.ingestTask env task = (s.assembly, .ok [])) :
    agent.onTask env w s task = (s, .ok (s.emit task)) := by
  rw [Agent.onTask, h]
  rfl

section Sample

def helloAgent : Agent where
  producer := agentProducer
  a2aProtocolVersion := "1.0"
  defaultPolicy := .new (.new .analysis)
  byName := fun _ => none
  hasExternalDir := false
  hasInputResolver := false

def helloResponse : PublishResponse := ⟨helloCtxId, "", 1, stamp, .active, none⟩

def helloSurroundings : Surroundings where
  completedAt := stamp
  freshSalt := .ok zeroSalt
  resolves := fun _ => false
  writes := fun _ => false
  reply := fun _ => .ok helloResponse

def helloPublication : Publication := ⟨helloCompletion, .new (.new .analysis), helloPrepared, helloResponse⟩

def helloAssembly : TaskAssembly := ⟨"t-1", "ctx-1", [⟨helloCompletion.artifact, true⟩]⟩

def helloSession : TaskSession := { TaskSession.new "t-1" "ctx-1" with assembly := helloAssembly }

theorem hello_ingested : (TaskAssembly.new "t-1" "ctx-1").ingestChunk helloEnv helloChunk =
    (helloAssembly, .ok .completed) := by
  decide +kernel

theorem hello_settled :
    helloAgent.settle helloEnv helloSurroundings helloSession "a1" = .published helloPublication := by
  have hart : helloSession.assembly.artifact "a1" = some helloCompletion.artifact := by decide +kernel
  have hskips : helloAgent.skips helloSession "a1" = false := by decide +kernel
  have hcompletion :
    helloAgent.completion helloSurroundings (helloAgent.checkInputs helloSurroundings helloSession)
      "a1" helloCompletion.artifact ArtifactHints.none (.new (.new .analysis)) = helloCompletion := rfl
  have hpolicy : helloAgent.policyFor helloSession "a1" = .new (.new .analysis) := rfl
  have hpublish : helloAgent.publish helloEnv helloSurroundings helloCompletion (.new (.new .analysis)) =
      .ok helloPublication :=
        publish_of_prepare helloEnv helloAgent helloSurroundings _ _ _ _ hello_prepared rfl rfl
  exact settle_of_publish helloEnv helloAgent helloSurroundings helloSession "a1" _ hart hskips _
    (by rw [hpolicy]; exact hcompletion ▸ hpublish)

def helloTrace : Trace := Trace.run helloEnv helloAgent "t-1" "ctx-1" [.onChunk helloSurroundings helloChunk]

theorem helloTrace_eq : helloTrace =
    ((Trace.new "t-1" "ctx-1").ingest helloAssembly).complete helloEnv helloAgent (fun _ => helloSurroundings)
      "a1" := by
  have hid : chunkArtifactId helloChunk = "a1" := by decide +kernel
  have hingested : (Trace.new "t-1" "ctx-1").session.assembly.ingestChunk helloEnv helloChunk =
      (helloAssembly, .ok .completed) := hello_ingested
  rw [helloTrace, Trace.run, List.foldl_cons, List.foldl_nil, Trace.step, hingested, hid]
  rfl

theorem helloTrace_published : helloTrace.latest "a1" = some (.published helloPublication) ∧
    helloTrace.session.links "a1" = some (helloPublication.link helloEnv) ∧
    helloTrace.session.withheld "a1" = false := by
  rw [helloTrace_eq]
  exact complete_published helloEnv helloAgent (fun _ => helloSurroundings) _ "a1"
    helloPublication hello_settled

theorem helloTrace_assembly : helloTrace.session.assembly = helloAssembly := by
  rw [helloTrace_eq, Trace.complete_session]
  exact (complete_frame helloEnv helloAgent helloSurroundings
    ((Trace.new "t-1" "ctx-1").ingest helloAssembly).session "a1").1

def workingTask : Json :=
  .obj [("status", .obj [("state", .str "TASK_STATE_WORKING")]),
    ("artifacts", .arr [.obj [("artifactId", .str "a1"), ("name", .str "greeting")]])]

theorem hello_working : helloAssembly.ingestTask helloEnv workingTask = (helloAssembly, .ok []) := by
  decide +kernel

theorem helloSurroundings_sound : helloSurroundings.Sound helloEnv where
  completedAt := stamp_inYears
  salt := by
    rintro salt ⟨⟩
    exact zeroSalt_roundTrips helloCanonicalize agentSha256

theorem helloChunk_careful :
    CarefulRun helloEnv helloAgent "t-1" "ctx-1" [.onChunk helloSurroundings helloChunk] :=
  CarefulRun.nil.snoc [] _ (fun _ _ => ⟨helloSurroundings_sound, fun _ _ _ => rfl⟩)

theorem helloRun_careful (w : String → Surroundings) :
    CarefulRun helloEnv helloAgent "t-1" "ctx-1"
      ([.onChunk helloSurroundings helloChunk] ++ [.onTask w workingTask]) := by
  refine helloChunk_careful.snoc _ _ ?_
  change (SessionCall.onTask w workingTask).Careful helloEnv helloAgent helloTrace
  intro assembly done hingest
  rw [helloTrace_assembly, hello_working] at hingest
  cases hingest
  refine ⟨by simp, fun id hid => absurd hid List.not_mem_nil, fun b hb => ?_⟩
  obtain rfl := List.mem_singleton.mp hb
  constructor
  · rintro id members art template - - - hart -
    obtain ⟨e, he, rfl⟩ := Option.map_eq_some_iff.mp hart
    obtain rfl := List.mem_singleton.mp (List.mem_of_find?_eq_some he)
    exact ⟨by simp [helloCompletion, recordName, recordLabel],
      by simp [helloCompletion, recordDescription, recordLabel], by simp [helloCompletion]⟩
  · rintro link ⟨⟩

theorem emit_working (s : TaskSession) (art : AssembledArtifact)
    (hcomplete : s.assembly.isComplete "a1" = true) (hart : s.assembly.artifact "a1" = some art) (link : Json)
    (hlink : s.links "a1" = some link)
    (hheld : s.withheld "a1" = false) :
    ∃ a ∈ TaskAssembly.artifactsOf (s.emit workingTask).task, artifactIdText a = some "a1" ∧
      linkOf a = some link := by
  let listed : Json := .obj [("artifactId", .str "a1"), ("name", .str "greeting")]
  have hartifacts : (workingTask.get "artifacts").bind Json.asArray = some [listed] := rfl
  have hid : artifactIdText listed = some "a1" := rfl
  have hcarried : s.carry listed = attach (setMember listed "parts" (.arr art.parts)) link := by
    rw [TaskSession.carry, hid]
    dsimp only
    rw [if_pos hcomplete, hlink, hart]
  have hkept : s.isWithheld listed = false := by
    rw [TaskSession.isWithheld, hid]
    exact hheld
  refine ⟨s.carry listed, ?_, ?_, ?_⟩
  · rw [TaskSession.emit, hartifacts]
    simp [hkept, TaskAssembly.artifactsOf, Json.get, workingTask, setMember, Json.asObject, Json.asArray,
      lookup_insertMember]
  · rw [hcarried]
    rfl
  · rw [hcarried]
    simp [listed, attach, setMember, insertMember, linkOf, Json.get, Json.asObject, List.lookup_cons]

theorem helloRun_links_match :
    ∃ out a, (helloAgent.onTask helloEnv (fun _ => helloSurroundings) helloTrace.session workingTask).2 =
      .ok out ∧ a ∈ TaskAssembly.artifactsOf out.task ∧ linkOf a = some (helloPublication.link helloEnv) ∧
      LinkMatches helloEnv helloAgent "t-1" "ctx-1"
        (Trace.run helloEnv helloAgent "t-1" "ctx-1"
          ([.onChunk helloSurroundings helloChunk] ++ [.onTask (fun _ => helloSurroundings) workingTask]))
        workingTask a (helloPublication.link helloEnv) := by
  obtain ⟨-, hlinks, hwithheld⟩ := helloTrace_published
  have hassembly := helloTrace_assembly
  have hingest : helloTrace.session.assembly.ingestTask helloEnv workingTask =
      (helloTrace.session.assembly, .ok []) := by
    rw [hassembly, hello_working]
  have hout : (helloAgent.onTask helloEnv (fun _ => helloSurroundings) helloTrace.session workingTask).2 =
      .ok (helloTrace.session.emit workingTask) := by
    rw [onTask_of_unchanged helloEnv helloAgent _ _ _ hingest]
  obtain ⟨a, ha, -, hlink⟩ := emit_working helloTrace.session helloCompletion.artifact
    (by rw [hassembly]; decide +kernel) (by rw [hassembly]; decide +kernel) _ hlinks hwithheld
  refine ⟨_, a, hout, ha, hlink, ?_⟩
  have hsession : helloTrace.session =
      [SessionCall.onChunk helloSurroundings helloChunk].foldl (helloAgent.step helloEnv)
      (.new "t-1" "ctx-1") :=
    Trace.run_session helloEnv helloAgent "t-1" "ctx-1" _
  exact emitted_links_match helloEnv (agentEnv_base64 _) (sampleSaltEnv_chrono helloCanonicalize agentSha256)
    helloAgent (by decide) "t-1" "ctx-1" [.onChunk helloSurroundings helloChunk] (fun _ => helloSurroundings)
    workingTask (helloRun_careful _) _ (hsession ▸ hout) a ha _ hlink

def byePart : Json := .obj [("text", .str "bye")]

def byeChunk : Json :=
  .obj [("artifact", .obj [("artifactId", .str "a1"), ("parts", .arr [byePart])]), ("lastChunk", .bool true)]

def byeAssembly : TaskAssembly := ⟨"t-1", "ctx-1", [⟨⟨"a1", none, none, none, [byePart], none⟩, true⟩]⟩

def relayedFacts : SessionFacts :=
  { (TaskSession.new "t-1" "ctx-1").toSessionFacts with
    hints := fun _ => some { ArtifactHints.none with relayed := true } }

def relayedCalls : List SessionCall :=
  [.onChunk helloSurroundings helloChunk, .tell relayedFacts, .onChunk helloSurroundings byeChunk]

def relayedTrace : Trace := Trace.run helloEnv helloAgent "t-1" "ctx-1" relayedCalls

theorem bye_ingested : helloAssembly.ingestChunk helloEnv byeChunk = (byeAssembly, .ok .completed) := by
  decide +kernel

theorem bye_working : byeAssembly.ingestTask helloEnv workingTask = (byeAssembly, .ok []) := by
  decide +kernel

/-- A chunk that completes an artifact without publishing it takes in the artifact and keeps its link. -/
theorem Trace.step_of_skips (env : A2aEnv) (agent : Agent) (w : Surroundings) (t : Trace) (chunk : Json)
    (assembly : TaskAssembly)
    (hingest : t.session.assembly.ingestChunk env chunk = (assembly, .ok .completed))
    (hskips : agent.skips (t.ingest assembly).session (chunkArtifactId chunk) = true) :
    t.step env agent (.onChunk w chunk) =
      ⟨{ t.session with assembly := assembly },
        Function.update t.latest (chunkArtifactId chunk) (some .skipped)⟩ := by
  rw [Trace.step, hingest]
  dsimp only
  rw [Trace.settleAll, List.foldl_cons, List.foldl_nil, Trace.complete, Agent.complete,
    settle_of_skips env agent w _ _ hskips]
  rfl

theorem Trace.skips_of_relayed (agent : Agent) (s : TaskSession) (id : String) (hints : ArtifactHints)
    (h : s.hints id = some hints) (hrelayed : hints.relayed = true) : agent.skips s id = true := by
  rw [Agent.skips]
  cases s.assembly.artifact id with
  | none => rfl
  | some art => simp [h, hrelayed]

theorem Trace.run_snoc (env : A2aEnv) (agent : Agent) (taskId contextId : String) (calls : List SessionCall)
    (call : SessionCall) : Trace.run env agent taskId contextId (calls ++ [call]) =
      (Trace.run env agent taskId contextId calls).step env agent call := by
  rw [Trace.run, List.foldl_append]
  rfl

theorem relayedTrace_eq : relayedTrace =
    ⟨{ helloTrace.session with toSessionFacts := relayedFacts, assembly := byeAssembly },
      Function.update helloTrace.latest "a1" (some .skipped)⟩ := by
  have hid : chunkArtifactId byeChunk = "a1" := by decide +kernel
  have hrun : relayedTrace = (helloTrace.step helloEnv helloAgent (.tell relayedFacts)).step
    helloEnv helloAgent (.onChunk helloSurroundings byeChunk) := by
    rw [helloTrace, ← Trace.run_snoc, ← Trace.run_snoc]
    rfl
  have hassembly := helloTrace_assembly
  rw [hrun]
  generalize helloTrace = t at hassembly ⊢
  rw [Trace.step_of_skips helloEnv helloAgent helloSurroundings _ byeChunk byeAssembly
    (by rw [Trace.step]; dsimp only; rw [hassembly, bye_ingested])
    (Trace.skips_of_relayed helloAgent _ _ { ArtifactHints.none with relayed := true } rfl rfl), hid]
  rfl

theorem relayedTrace_keeps : relayedTrace.session.assembly = byeAssembly ∧
    relayedTrace.session.links "a1" = some (helloPublication.link helloEnv) ∧
    relayedTrace.session.withheld "a1" = false ∧ relayedTrace.latest "a1" = some .skipped := by
  obtain ⟨-, hlinks, hwithheld⟩ := helloTrace_published
  rw [relayedTrace_eq]
  generalize helloTrace = t at hlinks hwithheld ⊢
  exact ⟨rfl, hlinks, hwithheld, Function.update_self "a1" (some .skipped) t.latest⟩

theorem relayed_completion_keeps_link :
    ∃ out a, (helloAgent.onTask helloEnv (fun _ => helloSurroundings)
        (relayedCalls.foldl (helloAgent.step helloEnv) (.new "t-1" "ctx-1")) workingTask).2 = .ok out ∧
      a ∈ TaskAssembly.artifactsOf out.task ∧ linkOf a = some (helloPublication.link helloEnv) ∧
      ¬ LinkMatches helloEnv helloAgent "t-1" "ctx-1"
        (Trace.run helloEnv helloAgent "t-1" "ctx-1"
          (relayedCalls ++ [.onTask (fun _ => helloSurroundings) workingTask]))
        workingTask a (helloPublication.link helloEnv) := by
  obtain ⟨hassembly, hlink, hheld, hlatest⟩ := relayedTrace_keeps
  have hingest : relayedTrace.session.assembly.ingestTask helloEnv workingTask =
      (relayedTrace.session.assembly, .ok []) := by
    rw [hassembly, bye_working]
  have hsession : relayedCalls.foldl (helloAgent.step helloEnv) (.new "t-1" "ctx-1") = relayedTrace.session :=
    (Trace.run_session helloEnv helloAgent "t-1" "ctx-1" relayedCalls).symm
  obtain ⟨a, ha, hid, hcarries⟩ := emit_working relayedTrace.session ⟨"a1", none, none, none, [byePart], none⟩
    (by rw [hassembly]; decide +kernel) (by rw [hassembly]; decide +kernel) _ hlink hheld
  refine ⟨relayedTrace.session.emit workingTask, a, ?_, ha, hcarries, ?_⟩
  · rw [hsession, onTask_of_unchanged helloEnv helloAgent _ _ _ hingest]
  · intro hmatches
    have hafter : (Trace.run helloEnv helloAgent "t-1" "ctx-1"
        (relayedCalls ++ [.onTask (fun _ => helloSurroundings) workingTask])).latest "a1" =
        some .skipped := by
      rw [Trace.run_snoc, ← relayedTrace, Trace.step, hingest]
      exact hlatest
    obtain ⟨hfalse, -⟩ := hmatches.latest "a1" hid (fun p hp => by rw [hafter] at hp; cases hp)
    have htrue : namesBody (helloPublication.link helloEnv) = true := by decide +kernel
    rw [htrue] at hfalse
    cases hfalse

end Sample

end Acdp.A2a
